import ImagePipeline.Proofs.Asset.Interchange
/-!
# What a bucket refuses

Whatever a client reports of a call, an operation on objects that fails does so with a failure of the
store, and only a get whose code says that there is nothing fails as not found (`perform_error`). Making
sure that the bucket exists puts up with a refusal to make it; only that the object store cannot be
reached passes there as it is (`ensureBucket_ended`). Both together are `refusals_contained`.
-/

namespace ImagePipeline.Asset

/-! ## What a client reports -/

def Raised (cause : Failure) : Prop :=
  cause = .bucketUnreachable ∨ ∃ code, cause = RefusalCode.refusal code

theorem Raised.isBucket {cause : Failure} (raised : Raised cause) : cause.isBucket = true := by
  rcases raised with rfl | ⟨code, rfl⟩ <;> rfl

def BucketCall.failure? : (c : BucketCall) → bucketClient.Reply c → Option Failure
  | .headBucket _, .error cause => some cause
  | .createBucket .., .error cause => some cause
  | .putObject .., .error cause => some cause
  | .getObject .., .error cause => some cause
  | .deleteObject .., .error cause => some cause
  | _, _ => none

variable {σ : Type}

/-- All failures that a client answers with are those of clients. -/
def Sound (answer : (c : BucketCall) → σ → bucketClient.Reply c × σ) : Prop :=
  ∀ (c : BucketCall) state cause, c.failure? (answer c state).1 = some cause → Raised cause

def raising : Contract bucketClient Unit :=
  Script.within (fun _ => True) fun e =>
    ∀ cause, BucketCall.failure? e.request e.reply = some cause → Raised cause

def Operation.Whole : Operation → Prop
  | save _ _ source => source.broken = none
  | get .. => True
  | delete _ => True
  | deleteAll .. => True

namespace BucketStore

open Script Routine

variable {α : Type} {store : BucketStore} {answer : (c : BucketCall) → σ → bucketClient.Reply c × σ}
  {state : σ} {key : String} {failure : Failure}

/-! ## Operations that fail as the store does -/

def Plain (cause : Failure) : Prop :=
  cause.isA .storageFailed = true ∧ cause.isA .objectNotFound = false

/-- A routine that succeeds, or fails as the store does, whatever the client reports. -/
def Contained (routine : Routine bucketClient α) : Prop :=
  Follows raising (fun _ result => ∀ cause, result = .error cause → Plain cause) () routine.run

theorem Contained.pure (value : α) : Contained (pure value : Routine bucketClient α) := nofun

theorem Contained.throw (plain : Plain failure) : Contained (throw failure : Routine bucketClient α) := by
  rintro _ ⟨⟩
  exact plain

theorem Contained.bind {β : Type} {first : Routine bucketClient α} {next : α → Routine bucketClient β}
    (contained : Contained first) (later : ∀ value, Contained (next value)) :
    Contained (first >>= next) := by
  refine Routine.follows_bind (Follows.mono contained fun _ result plain => ?_)
  cases result with
  | ok value => exact later value
  | error cause =>
      rintro _ ⟨⟩
      exact plain cause rfl

theorem contained_reported {asked : Routine bucketClient α}
    (raises : Follows raising (fun _ result => ∀ cause, result = .error cause → Raised cause) ()
      asked.run)
    (plain : Plain failure) :
    Contained (asked.recover Failure.isBucket fun _ => throw failure) := by
  refine follows_recover (raises.mono fun _ result raised => ?_)
  cases result with
  | ok value => exact nofun
  | error cause =>
      simp only [(raised cause rfl).isBucket, if_true]
      exact Contained.throw plain

theorem plain_failed (message key : String) : Plain (failed message key) := ⟨rfl, rfl⟩

theorem contained_put (body : ByteArray) (plain : Plain failure) :
    Contained ((ask (call (.putObject store.bucket key body))).recover Failure.isBucket fun _ =>
      throw failure) := by
  refine contained_reported ⟨trivial, fun reply _ raised cause failed => raised cause ?_⟩ plain
  rw [failed]
  rfl

theorem contained_delete (store : BucketStore) (key : Option String) :
    Contained (store.delete key) := by
  cases key with
  | none => exact .pure ()
  | some key =>
      rw [delete]
      split
      · exact .pure ()
      · refine contained_reported ⟨trivial, fun reply _ raised cause failed => raised cause ?_⟩
          (plain_failed ..)
        rw [failed]
        rfl

theorem contained_save (store : BucketStore) (space name : String) {source : Source}
    (whole : source.broken = none) : Contained (store.save space name source) := by
  have read : source.read = .ok source.content := by rw [Source.read, whole]
  unfold save
  rw [read]
  refine Contained.bind (.pure source.content) fun body => ?_
  simp only
  split
  · refine (Contained.throw ⟨rfl, rfl⟩).bind fun _ => ?_
    exact (contained_put body (plain_failed ..)).bind fun _ => .pure _
  · exact (contained_put body (plain_failed ..)).bind fun _ => .pure _

theorem contained_deleteEach (store : BucketStore) (keys : List (Option String)) {first : Option Failure}
    (plain : ∀ cause, first = some cause → Plain cause) :
    Contained (deleteEach store.delete keys first) := by
  induction keys generalizing first with
  | nil =>
      cases first with
      | none => exact .pure ()
      | some cause => exact .throw (plain cause rfl)
  | cons key rest ih =>
      rw [Contained, deleteEach_cons_run]
      -- a deletion that fails is noted, and the others are attempted all the same
      refine Script.follows_bind (Follows.mono (contained_delete store key) fun _ _ deleted =>
        ih fun cause noted => ?_)
      cases first with
      | none => exact deleted cause (failureOf_eq_some_iff.mp noted)
      | some earlier => exact plain cause noted

theorem contained_perform (store : BucketStore) {op : Operation} (whole : op.Whole)
    (other : ∀ space key, op ≠ .get space key) : Contained (op.perform store.operations) := by
  cases op with
  | save space name source =>
      have saved : Contained (store.operations.saveIn space name source) := by
        cases space <;> exact contained_save store _ name whole
      exact saved.bind fun key => .pure (Outcome.key key)
  | get space key => exact absurd rfl (other space key)
  | delete key => exact (contained_delete store key).bind fun _ => .pure Outcome.done
  | deleteAll upload processed =>
      have none : ∀ cause, (none : Option Failure) = some cause → Plain cause := nofun
      exact (contained_deleteEach store [upload, processed] none).bind fun _ => .pure Outcome.done

theorem Contained.run {routine : Routine bucketClient α} (contained : Contained routine)
    (sound : Sound answer) {cause : Failure} (failed : (routine.run.run answer state).1 = .error cause) :
    Plain cause := by
  have answered (state : σ) (p : Unit) (c : BucketCall) (_ : True) (_ : raising.may p c) :
      ∃ p', raising.moves p c (answer c state).1 p' ∧ True := ⟨(), sound c state, trivial⟩
  obtain ⟨-, -, plain⟩ := Follows.run answer (fun _ _ => True) contained answered trivial
  exact plain cause failed

/-! ## Reading an object -/

def NotFound (reply : Except Failure α) : Prop :=
  ∃ code, reply = .error (RefusalCode.refusal code) ∧ code.toText ∈ notFoundCodes

theorem not_notFound_ok (value : α) : ¬ NotFound (.ok value : Except Failure α) := by
  rintro ⟨code, ⟨⟩, -⟩

theorem notFound_error_iff {cause : Failure} :
    NotFound (.error cause : Except Failure α) ↔ Raised cause ∧ saysNotFound cause = true := by
  constructor
  · rintro ⟨code, ⟨⟩, known⟩
    exact ⟨.inr ⟨code, rfl⟩, List.contains_iff_mem.mpr known⟩
  · rintro ⟨rfl | ⟨code, rfl⟩, known⟩
    · cases known
    · exact ⟨code, rfl, List.contains_iff_mem.mp known⟩

theorem perform_get_error_iff {space : Space} {cause : Failure} :
    (((Operation.get space key).perform store.operations).run.run answer state).1 = .error cause ↔
      ((store.fetch key).run.run answer state).1 = .error cause := by
  rw [Operation.perform, getFrom_eq, Routine.run_bind_pure]
  cases ((store.fetch key).run.run answer state).1 <;> simp [Except.map]

def unread (key : String) (cause : Failure) : Failure :=
  if saysNotFound cause then .app .objectNotFound (some ("오브젝트를 찾을 수 없습니다: " ++ key))
  else failed "오브젝트 조회 실패: " key

theorem fetch_run_error (store : BucketStore) (key : String) {between : σ} {cause : Failure}
    (raised : Raised cause) (refused : answer (.getObject store.bucket key) state = (.error cause, between)) :
    (store.fetch key).run.run answer state = (.error (unread key cause), between) := by
  have asked : (ask (call (.getObject store.bucket key))).run.run answer state =
      (.error cause, between) := refused
  unfold fetch
  rw [run_recover_error asked, if_pos raised.isBucket, unread]
  cases saysNotFound cause <;> rfl

theorem fetch_run_ok (store : BucketStore) (key : String) {between : σ} {bytes : ByteArray}
    (found : answer (.getObject store.bucket key) state = (.ok bytes, between)) :
    (store.fetch key).run.run answer state = (.ok bytes, between) := by
  have asked : (ask (call (.getObject store.bucket key))).run.run answer state =
      (.ok bytes, between) := found
  exact run_recover_ok asked

theorem unread_isA (key : String) (cause : Failure) :
    (unread key cause).isA .storageFailed = true ∧
      (unread key cause).isA .objectNotFound = saysNotFound cause := by
  unfold unread
  cases saysNotFound cause <;> exact ⟨rfl, rfl⟩

theorem fetch_error (sound : Sound answer) {cause : Failure}
    (failed : ((store.fetch key).run.run answer state).1 = .error cause) :
    cause.isA .storageFailed = true ∧
      (cause.isA .objectNotFound = true ↔ NotFound (answer (.getObject store.bucket key) state).1) := by
  cases replied : answer (.getObject store.bucket key) state with
  | mk reply between =>
      cases reply with
      | ok bytes =>
          rw [fetch_run_ok store key replied] at failed
          cases failed
      | error given =>
          have raised := sound (.getObject store.bucket key) state given (by rw [replied]; rfl)
          rw [fetch_run_error store key raised replied] at failed
          cases failed
          obtain ⟨reported, told⟩ := unread_isA key given
          exact ⟨reported, by rw [told, notFound_error_iff, and_iff_right raised]⟩

theorem fetch_of_notFound
    (missing : NotFound (answer (.getObject store.bucket key) state).1) :
    ∃ cause, ((store.fetch key).run.run answer state).1 = .error cause ∧
      cause.isA .objectNotFound = true := by
  cases replied : answer (.getObject store.bucket key) state with
  | mk reply between =>
      rw [replied] at missing
      cases reply with
      | ok bytes => exact absurd missing (not_notFound_ok bytes)
      | error given =>
          obtain ⟨raised, known⟩ := notFound_error_iff.mp missing
          refine ⟨unread key given, ?_, (unread_isA key given).2.trans known⟩
          rw [fetch_run_error store key raised replied]

theorem perform_error (sound : Sound answer) (store : BucketStore) {op : Operation} (whole : op.Whole)
    (state : σ) :
    (∀ cause, ((op.perform store.operations).run.run answer state).1 = .error cause →
        cause.isA .storageFailed = true) ∧
      ((∃ cause, ((op.perform store.operations).run.run answer state).1 = .error cause ∧
          cause.isA .objectNotFound = true) ↔
        ∃ space key, op = .get space key ∧ NotFound (answer (.getObject store.bucket key) state).1) := by
  by_cases reads : ∃ space key, op = .get space key
  · obtain ⟨space, key, rfl⟩ := reads
    simp only [perform_get_error_iff]
    refine ⟨fun cause failed => (fetch_error sound failed).1, ?_, ?_⟩
    · rintro ⟨cause, failed, missing⟩
      exact ⟨space, key, rfl, (fetch_error sound failed).2.mp missing⟩
    · rintro ⟨_, _, ⟨⟩, missing⟩
      exact fetch_of_notFound missing
  · have contained := contained_perform store whole fun space key same => reads ⟨space, key, same⟩
    refine ⟨fun cause failed => (contained.run sound failed).1, ?_, ?_⟩
    · rintro ⟨cause, failed, missing⟩
      rw [(contained.run sound failed).2] at missing
      cases missing
    · rintro ⟨space, key, same, -⟩
      exact absurd ⟨space, key, same⟩ reads

/-! ## Making sure that the bucket exists -/

def settled : Except Failure Unit → Except Failure Unit
  | .ok () => .ok ()
  | .error cause => if refused cause then .ok () else .error cause

def resumed (store : BucketStore) (region : Option String) :
    Except Failure Unit → Script bucketClient (Except Failure Unit)
  | .ok () => .done (.ok ())
  | .error cause =>
    if saysNotFound cause then
      .ask (.createBucket store.bucket (mentionedRegion region)) fun reply => .done (settled reply)
    else if refused cause then .done (.error (failed "버킷 확인 실패: " store.bucket))
    else .done (.error cause)

theorem createBucket_eq (bucket : String) (region : Option String) :
    ((ask (call (.createBucket bucket region))).recover refused fun _ => Pure.pure () :
      Routine bucketClient Unit).run =
        .ask (.createBucket bucket region) fun reply => .done (settled reply) := by
  refine congrArg (Script.ask (I := bucketClient) (.createBucket bucket region)) (funext fun reply => ?_)
  rcases reply with cause | done
  · cases cause <;> rfl
  · rfl

theorem ensureBucket_eq (store : BucketStore) (region : Option String) :
    (store.ensureBucket region).run = .ask (.headBucket store.bucket) (store.resumed region) := by
  refine congrArg (Script.ask (I := bucketClient) (.headBucket store.bucket)) (funext fun reply => ?_)
  rcases reply with cause | done
  · cases cause with
    | bucketRefused code =>
        cases known : notFoundCodes.contains code with
        | true =>
            have told : saysNotFound (.bucketRefused code) = true := known
            simp only [resumed, Script.bind, ExceptT.bindCont, Pure.pure, told, refused, if_true]
            exact createBucket_eq store.bucket (mentionedRegion region)
        | false =>
            have told : saysNotFound (.bucketRefused code) = false := known
            simp only [resumed, Script.bind, ExceptT.bindCont, Pure.pure, told, refused, if_true,
              Bool.false_eq_true, if_false]
            rfl
    | _ => rfl
  · rfl

theorem notFound_refusal_iff {code : RefusalCode} :
    NotFound (.error code.refusal : Except Failure α) ↔ saysNotFound code.refusal = true :=
  notFound_error_iff.trans (and_iff_right (.inr ⟨code, rfl⟩))

theorem not_notFound_unreachable : ¬ NotFound (.error .bucketUnreachable : Except Failure α) := by
  rintro ⟨code, lost, -⟩
  cases lost

theorem settled_of_raised {made : Except Failure Unit}
    (raised : ∀ cause, made = .error cause → Raised cause) :
    (made = .error .bucketUnreachable ∧ settled made = .error .bucketUnreachable) ∨
      (made ≠ .error .bucketUnreachable ∧ settled made = .ok ()) := by
  cases made with
  | ok done => exact .inr ⟨nofun, rfl⟩
  | error cause =>
      rcases raised cause rfl with rfl | ⟨code, rfl⟩
      · exact .inl ⟨rfl, rfl⟩
      · exact .inr ⟨nofun, rfl⟩

variable {between : σ} {reply : Except Failure Unit}

theorem ensureBucket_of_done (region : Option String) {ended : Except Failure Unit}
    (replied : answer (.headBucket store.bucket) state = (reply, between))
    (ends : store.resumed region reply = .done ended) :
    ((store.ensureBucket region).run.run answer state).1 = ended ∧
      ((store.ensureBucket region).run.trace answer state).map (·.request) =
        [.headBucket store.bucket] := by
  rw [ensureBucket_eq]
  simp only [Script.run, Script.trace, replied, ends, List.map_cons, List.map_nil, and_self]

theorem ensureBucket_of_missing (region : Option String) (missing : NotFound reply)
    (replied : answer (.headBucket store.bucket) state = (reply, between)) :
    ((store.ensureBucket region).run.run answer state).1 =
        settled (answer (.createBucket store.bucket (mentionedRegion region)) between).1 ∧
      ((store.ensureBucket region).run.trace answer state).map (·.request) =
        [.headBucket store.bucket, .createBucket store.bucket (mentionedRegion region)] := by
  have goesOn : store.resumed region reply =
      .ask (.createBucket store.bucket (mentionedRegion region)) fun reply => .done (settled reply) := by
    obtain ⟨code, rfl, known⟩ := missing
    have told : saysNotFound code.refusal = true := List.contains_iff_mem.mpr known
    rw [resumed, if_pos told]
  rw [ensureBucket_eq]
  simp only [Script.run, Script.trace, replied, goesOn, List.map_cons, List.map_nil, and_self]

theorem ensureBucket_of_not_missing (region : Option String) (present : ¬ NotFound reply)
    (raised : ∀ cause, reply = .error cause → Raised cause)
    (replied : answer (.headBucket store.bucket) state = (reply, between)) :
    ((reply = .error .bucketUnreachable ∧
        ((store.ensureBucket region).run.run answer state).1 = .error .bucketUnreachable) ∨
      (reply ≠ .error .bucketUnreachable ∧
        ∀ cause, ((store.ensureBucket region).run.run answer state).1 = .error cause → Plain cause)) ∧
      ((store.ensureBucket region).run.trace answer state).map (·.request) =
        [.headBucket store.bucket] := by
  cases reply with
  | ok done =>
      obtain ⟨ended, asked⟩ := ensureBucket_of_done region replied rfl
      refine ⟨.inr ⟨nofun, fun cause failed => ?_⟩, asked⟩
      rw [ended] at failed
      cases failed
  | error cause =>
      rcases raised cause rfl with rfl | ⟨code, rfl⟩
      · obtain ⟨ended, asked⟩ := ensureBucket_of_done region replied rfl
        exact ⟨.inl ⟨rfl, ended⟩, asked⟩
      · have other : ¬ saysNotFound code.refusal = true := fun known =>
          present (notFound_refusal_iff.mpr known)
        have stops : store.resumed region (.error code.refusal) =
            .done (.error (failed "버킷 확인 실패: " store.bucket)) := by
          rw [resumed, if_neg other]
          rfl
        obtain ⟨ended, asked⟩ := ensureBucket_of_done region replied stops
        refine ⟨.inr ⟨nofun, fun cause failed => ?_⟩, asked⟩
        rw [ended] at failed
        cases failed
        exact plain_failed ..

/-- The object store was not reached when it mattered. -/
def CutOff (head made : Except Failure Unit) : Prop :=
  head = .error .bucketUnreachable ∨ NotFound head ∧ made = .error .bucketUnreachable

theorem cutOff_iff_of_missing {head made : Except Failure Unit} (missing : NotFound head) :
    CutOff head made ↔ made = .error .bucketUnreachable := by
  refine ⟨?_, fun lost => .inr ⟨missing, lost⟩⟩
  rintro (rfl | ⟨-, lost⟩)
  · exact absurd missing not_notFound_unreachable
  · exact lost

theorem cutOff_iff_of_not_missing {head made : Except Failure Unit} (present : ¬ NotFound head) :
    CutOff head made ↔ head = .error .bucketUnreachable :=
  or_iff_left fun lost => present lost.1

theorem storageFailed_iff {ended : Except Failure Unit} {lost : Prop}
    (either : (lost ∧ ended = .error .bucketUnreachable) ∨
      (¬ lost ∧ ∀ cause, ended = .error cause → Plain cause)) :
    ((∀ cause, ended = .error cause → cause.isA .storageFailed = true) ↔ ¬ lost) ∧
      ∀ cause, ended = .error cause → cause.isA .objectNotFound = false := by
  rcases either with ⟨cut, rfl⟩ | ⟨reached, plain⟩
  · refine ⟨iff_of_false (fun all => ?_) (not_not_intro cut), ?_⟩
    · exact absurd (all .bucketUnreachable rfl) (by decide)
    · rintro _ ⟨⟩
      rfl
  · exact ⟨iff_of_true (fun cause failed => (plain cause failed).1) reached,
      fun cause failed => (plain cause failed).2⟩

theorem ensureBucket_ended (sound : Sound answer) (store : BucketStore) (region : Option String)
    (state : σ) :
    let head := answer (.headBucket store.bucket) state
    let made := answer (.createBucket store.bucket (mentionedRegion region)) head.2
    let ended := ((store.ensureBucket region).run.run answer state).1
    let asked := ((store.ensureBucket region).run.trace answer state).map (·.request)
    (NotFound head.1 → asked =
        [.headBucket store.bucket, .createBucket store.bucket (mentionedRegion region)]) ∧
      (¬ NotFound head.1 → asked = [.headBucket store.bucket]) ∧
      ((∀ cause, ended = .error cause → cause.isA .storageFailed = true) ↔ ¬ CutOff head.1 made.1) ∧
      (∀ cause, ended = .error cause → cause.isA .objectNotFound = false) ∧
      (NotFound head.1 → (ended = .ok () ↔ made.1 ≠ .error .bucketUnreachable)) := by
  intro head made ended asked
  have replied : answer (.headBucket store.bucket) state = (head.1, head.2) := rfl
  -- the bucket is asked to be made exactly if it was reported missing
  by_cases missing : NotFound head.1
  · obtain ⟨outcome, calls⟩ := ensureBucket_of_missing region missing replied
    have raised : ∀ cause, made.1 = .error cause → Raised cause := fun cause failed =>
      sound (.createBucket store.bucket (mentionedRegion region)) head.2 cause
        (congrArg (BucketCall.failure? (.createBucket store.bucket (mentionedRegion region))) failed)
    have outcome : ended = settled made.1 := outcome
    rw [cutOff_iff_of_missing missing]
    refine ⟨fun _ => calls, fun present => absurd missing present, ?_⟩
    rcases settled_of_raised raised with ⟨lost, passed⟩ | ⟨reached, passed⟩
    · have cut : ended = .error .bucketUnreachable := outcome.trans passed
      have failed : ended ≠ .ok () := by
        rw [cut]
        nofun
      obtain ⟨contained, plain⟩ := storageFailed_iff (.inl ⟨lost, cut⟩)
      exact ⟨contained, plain, fun _ => iff_of_false failed (not_not_intro lost)⟩
    · have done : ended = .ok () := outcome.trans passed
      have fine : ∀ cause, ended = .error cause → Plain cause := by
        rw [done]
        nofun
      obtain ⟨contained, plain⟩ := storageFailed_iff (.inr ⟨reached, fine⟩)
      exact ⟨contained, plain, fun _ => iff_of_true done reached⟩
  · have raised : ∀ cause, head.1 = .error cause → Raised cause := fun cause failed =>
      sound (.headBucket store.bucket) state cause
        (congrArg (BucketCall.failure? (.headBucket store.bucket)) failed)
    obtain ⟨either, calls⟩ := ensureBucket_of_not_missing region missing raised replied
    obtain ⟨contained, plain⟩ := storageFailed_iff either
    rw [cutOff_iff_of_not_missing missing]
    exact ⟨fun here => absurd here missing, fun _ => calls, contained, plain,
      fun here => absurd here missing⟩

/-- Whatever a client reports, an operation that fails does so as the store does, and as not found
exactly if it is a get refused with a code that says so. Making sure of the bucket asks for it to be made
exactly if it was reported missing, and comes to nothing but a failure of the store unless the object
store is cut off; that making it is refused is never a failure. -/
theorem refusals_contained (sound : Sound answer) (store : BucketStore) :
    (∀ (op : Operation) (state : σ), op.Whole →
      let result := ((op.perform store.operations).run.run answer state).1
      (∀ cause, result = .error cause → cause.isA .storageFailed = true) ∧
        ((∃ cause, result = .error cause ∧ cause.isA .objectNotFound = true) ↔
          ∃ space key, op = .get space key ∧ NotFound (answer (.getObject store.bucket key) state).1)) ∧
      ∀ (region : Option String) (state : σ),
        let head := answer (.headBucket store.bucket) state
        let made := answer (.createBucket store.bucket (mentionedRegion region)) head.2
        let ended := ((store.ensureBucket region).run.run answer state).1
        let asked := ((store.ensureBucket region).run.trace answer state).map (·.request)
        (NotFound head.1 → asked =
            [.headBucket store.bucket, .createBucket store.bucket (mentionedRegion region)]) ∧
          (¬ NotFound head.1 → asked = [.headBucket store.bucket]) ∧
          ((∀ cause, ended = .error cause → cause.isA .storageFailed = true) ↔
            ¬ CutOff head.1 made.1) ∧
          (∀ cause, ended = .error cause → cause.isA .objectNotFound = false) ∧
          (NotFound head.1 → (ended = .ok () ↔ made.1 ≠ .error .bucketUnreachable)) :=
  ⟨fun _ state whole => perform_error sound store whole state, ensureBucket_ended sound store⟩

def lacking (made : Except Failure Unit) : (c : BucketCall) → Unit → bucketClient.Reply c × Unit
  | .headBucket _, state => (.error (RefusalCode.number (.integer 404)).refusal, state)
  | .createBucket .., state => (made, state)
  | .putObject .., state => (.error .bucketUnreachable, state)
  | .getObject .., state => (.error (RefusalCode.text "NoSuchKey").refusal, state)
  | .deleteObject .., state => (.error .bucketUnreachable, state)

theorem lacking_sound {made : Except Failure Unit}
    (raised : ∀ cause, made = .error cause → Raised cause) : Sound (lacking made) := by
  intro c state cause failed
  cases c with
  | headBucket =>
      cases failed
      exact .inr ⟨_, rfl⟩
  | createBucket =>
      refine raised cause ?_
      cases made <;> cases failed
      rfl
  | putObject =>
      cases failed
      exact .inl rfl
  | getObject =>
      cases failed
      exact .inr ⟨_, rfl⟩
  | deleteObject =>
      cases failed
      exact .inl rfl

def images : BucketStore := ⟨"images", "original", "processed"⟩

theorem denied_contained :
    let denied : Except Failure Unit := .error (RefusalCode.text "AccessDenied").refusal
    Sound (lacking denied) ∧ (Operation.get .upload "original/a.png").Whole ∧
      (∃ cause, (((Operation.get .upload "original/a.png").perform images.operations).run.run
          (lacking denied) ()).1 = .error cause ∧ cause.isA .objectNotFound = true) ∧
      ((images.ensureBucket none).run.run (lacking denied) ()).1 = .ok () := by
  intro denied
  have sound : Sound (lacking denied) := lacking_sound fun cause failed =>
    .inr ⟨.text "AccessDenied", (Except.error.inj failed).symm⟩
  obtain ⟨operated, ensured⟩ := refusals_contained sound images
  obtain ⟨-, missing⟩ := operated (.get .upload "original/a.png") () trivial
  obtain ⟨-, -, -, -, made⟩ := ensured none ()
  exact ⟨sound, trivial,
    missing.mpr ⟨.upload, "original/a.png", rfl, .text "NoSuchKey", rfl, by decide⟩,
    (made ⟨.number (.integer 404), rfl, by decide +kernel⟩).mpr nofun⟩

theorem lost_uncontained :
    let lost : Except Failure Unit := .error .bucketUnreachable
    Sound (lacking lost) ∧
      ((images.ensureBucket none).run.run (lacking lost) ()).1 = .error .bucketUnreachable ∧
      Failure.isA .storageFailed .bucketUnreachable = false := by
  intro lost
  have missing : NotFound (lacking lost (.headBucket images.bucket) ()).1 :=
    ⟨.number (.integer 404), rfl, by decide +kernel⟩
  exact ⟨lacking_sound fun cause failed => .inl (Except.error.inj failed).symm,
    (ensureBucket_of_missing none missing rfl).1, rfl⟩

end BucketStore

end ImagePipeline.Asset
