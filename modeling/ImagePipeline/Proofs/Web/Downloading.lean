import ImagePipeline.Proofs.Text.Percent
import ImagePipeline.Proofs.Web.Answering
import ImagePipeline.Proofs.Workflow.ResultNames

namespace ImagePipeline

namespace Web

open Workflow
open Script (Ran)
open Routine (ran_bind)

def HeaderChar (c : Char) : Prop := c.isAlphanum = true ∨ c ∈ ";=*'/%.-_~ ".toList

instance : DecidablePred HeaderChar := fun c =>
  inferInstanceAs (Decidable (c.isAlphanum = true ∨ c ∈ ";=*'/%.-_~ ".toList))

theorem headerChar_of_isPlain {b : UInt8} (plain : Text.Percent.isPlain b = true) :
    HeaderChar (Char.ofNat b.toNat) := by
  simp only [Text.Percent.isPlain, Bool.and_eq_true, Bool.or_eq_true, beq_iff_eq] at plain
  unfold HeaderChar
  rcases plain.2 with ((((known | known) | known) | known) | known) | known
  · exact .inl known
  all_goals
    rw [known]
    decide

theorem headerChar_digit : ∀ n < 16, HeaderChar (Text.Percent.digit n) := by
  decide

theorem disposition_safe (name : String) : ∀ c ∈ (disposition name).toList, HeaderChar c := by
  intro c mem
  unfold disposition at mem
  rw [String.toList_append] at mem
  rcases List.mem_append.mp mem with front | written
  · have start : ("inline; filename*=UTF-8''".toList.all fun c => HeaderChar c) = true := by
      decide +kernel
    simpa using List.all_eq_true.mp start c front
  · rcases Text.Percent.mem_encodeBy written with ⟨b, plain, rfl⟩ | rfl | ⟨n, small, rfl⟩
    · exact headerChar_of_isPlain plain
    · decide
    · exact headerChar_digit n small

theorem disposition_decoded (name : String) :
    ∃ written, disposition name = "inline; filename*=UTF-8''" ++ written ∧
      Text.Percent.decode? written = some name :=
  ⟨_, rfl, Text.Percent.decode?_encodeBy Text.Percent.transparent_isPlain name⟩

example : disposition "a \"b\"\r\nü.png" =
    "inline; filename*=UTF-8''a%20%22b%22%0D%0A%C3%BC.png" := by decide +kernel

variable {σ : Type} {answers : (c : Call) → σ → working.Reply c → σ → Prop} {id : String}
  {uploaded : Bool} {state state' : σ} {events : List (Event working)}
  {result : Except Failure Response}

theorem fileRoute_cases (ran : Ran answers (fileRoute id uploaded).run state events result state') :
    (∃ cause, result = .error cause ∧
        Ran answers (file id uploaded).run state events (.error cause) state') ∨
      ∃ content name, Ran answers (file id uploaded).run state events (.ok (content, name)) state' ∧
        (¬ Unsendable name ∧ (∃ response, result = .ok response ∧
            response.headers = [("content-disposition", disposition name)]) ∨
          Unsendable name ∧ ∃ cause, result = .error cause) := by
  unfold fileRoute at ran
  rcases ran_bind ran with ⟨cause, rfl, given⟩ | ⟨⟨content, name⟩, between, first, rest, rfl, given, sends⟩
  · exact .inl ⟨cause, rfl, given⟩
  refine .inr ⟨content, name, ?_⟩
  simp only at sends
  cases known : MediaType.ofName name with
  | error cause =>
      rw [known] at sends
      obtain ⟨rfl, rfl, rfl⟩ := sends
      rw [List.append_nil]
      refine ⟨given, .inr ⟨fun mediaType read => ?_, cause, rfl⟩⟩
      cases known.symm.trans read
  | ok mediaType =>
      rw [known] at sends
      rcases ran_bind sends with ⟨_, -, never⟩ | ⟨_, _, _, _, rfl, done, sends⟩
      · cases never.2.1
      obtain ⟨rfl, same, rfl⟩ := done
      cases same
      cases fits : fitsHeader (MediaType.withCharset (mediaType.getD MediaType.unknown)) with
      | false =>
          simp only [fits] at sends
          obtain ⟨rfl, rfl, rfl⟩ := sends
          simp only [List.append_nil]
          refine ⟨given, .inr ⟨fun other read => ?_, _, rfl⟩⟩
          cases known.symm.trans read
          exact fits
      | true =>
          simp only [fits] at sends
          obtain ⟨rfl, rfl, rfl⟩ := sends
          simp only [List.append_nil]
          refine ⟨given, .inl ⟨fun unsendable => ?_, _, rfl, rfl⟩⟩
          exact Bool.false_ne_true ((unsendable mediaType known).symm.trans fits)

def foundRecords (events : List (Event working)) : List Record :=
  events.filterMap fun
    | ⟨.find _, .ok r⟩ => some r
    | _ => none

def dotTrace : List (Event working) :=
  (fileRoute (Site.idNumber 1) false).run.trace (Site.answerBy none) processedDot.shared

def dotAnswer : Except Failure Response :=
  ((fileRoute (Site.idNumber 1) false).run.run (Site.answerBy none) processedDot.shared).1

def bracketed : Upload := { dot with filename := "//[.png" }

def bracketRoom : Site := (oneRoom.run (bracketed.accept ⟨12, [".png"]⟩)).2

def bracketRequest : Request where
  method := "GET"
  path := "/image/" ++ Site.idNumber 1 ++ "/original"
  query := []
  headers := []
  form := []
  server := "http://localhost:8000"

end Web

end ImagePipeline
