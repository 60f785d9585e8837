import ImagePipeline.Proofs.Web.Answering
import Mathlib.Data.String.Basic

namespace ImagePipeline

namespace Text

variable {chars : List Char}

theorem takeDigits_of_digits (digits : ∀ c ∈ chars, c.isDigit = true) (n count : ℕ) :
    takeDigits chars n count = (Nat.ofDigitChars 10 chars n, count + chars.length, []) := by
  induction chars generalizing n count with
  | nil => rw [takeDigits.eq_def]; rfl
  | cons c rest ih =>
      obtain ⟨digit, others⟩ := List.forall_mem_cons.mp digits
      rw [takeDigits.eq_def]
      simp only [digit, if_true]
      rw [ih others, Nat.ofDigitChars_cons, Nat.mul_comm n, List.length_cons, Nat.add_assoc,
        Nat.add_comm 1]
      rfl

theorem isBlank_of_isDigit {c : Char} (digit : c.isDigit = true) : isBlank c = false := by
  have range : 48 ≤ c.toNat ∧ c.toNat ≤ 57 := by
    rw [Char.isDigit, Bool.and_eq_true, decide_eq_true_iff, decide_eq_true_iff] at digit
    exact digit
  have space : c ≠ ' ' := by
    rintro rfl
    exact absurd range (by decide)
  simp [isBlank, space]
  omega

theorem trimBy_of_none {drop : Char → Bool} (none : ∀ c ∈ chars, drop c = false) :
    trimBy drop chars = chars := by
  have kept {l : List Char} (none : ∀ c ∈ l, drop c = false) : l.dropWhile drop = l := by
    cases l with
    | nil => rfl
    | cons c rest => simp [none c List.mem_cons_self]
  have reversed : ∀ c ∈ chars.reverse, drop c = false := fun c mem => none c (List.mem_reverse.mp mem)
  rw [trimBy, kept none, kept reversed, List.reverse_reverse]

theorem takeSign_of_digits (digits : ∀ c ∈ chars, c.isDigit = true) :
    takeSign chars = (false, chars) := by
  unfold takeSign
  split
  · exact absurd (digits '-' List.mem_cons_self) (by decide)
  · exact absurd (digits '+' List.mem_cons_self) (by decide)
  · rfl

theorem utf8Len_le (chars : List Char) : String.utf8Len chars ≤ 4 * chars.length := by
  induction chars with
  | nil => exact Nat.le_refl 0
  | cons c rest ih =>
      have width := c.utf8Size_le_four
      rw [String.utf8Len_cons, List.length_cons]
      omega

theorem integer?_toString (n : ℕ) : integer? (toString n) = some (n : Int) := by
  have digits : ∀ c ∈ Nat.toDigits 10 n, c.isDigit = true := fun _ mem =>
    Nat.isDigit_of_mem_toDigits (by decide) (by decide) mem
  have written : (toString n).toList = Nat.toDigits 10 n := Nat.toList_repr
  have digit : 0 < 0 + (Nat.toDigits 10 n).length := by
    rw [Nat.zero_add]
    exact Nat.length_toDigits_pos
  unfold integer?
  rw [written, trimBy_of_none fun c mem => isBlank_of_isDigit (digits c mem), takeSign_of_digits digits]
  dsimp only
  rw [takeDigits_of_digits digits, Nat.ofDigitChars_ten_toDigits]
  simp only [digit, decide_true, Bool.and_self, if_true, Bool.false_eq_true, if_false]

end Text

theorem Offered.integerOf_toString {n : ℕ} (near : n < 0x8000000000000000) :
    Offered.integerOf (toString n) = .ok (n : Int) := by
  have digits : (Nat.toDigits 10 n).length ≤ 19 :=
    (Nat.length_toDigits_le_iff (by decide) (by decide)).mpr (by omega)
  have short : (toString n).utf8ByteSize ≤ maxDigits := by
    rw [Nat.toString_eq_ofList_toDigits, String.utf8ByteSize_ofList, maxDigits]
    have wide := Text.utf8Len_le (Nat.toDigits 10 n)
    omega
  rw [integerOf, if_neg (Nat.not_lt.mpr short), Text.integer?_toString]

namespace Web

open Workflow
open Routine (run_bind_ok trace_bind_ok)

variable {server : Server} {request : Request} {site : Site} {limit offset : Int} {status : Option Status}

theorem imagesRoute_eq (limited : integerPart request "limit" Page.usualLimit = .ok limit)
    (placed : integerPart request "offset" 0 = .ok offset)
    (chosen : statusPart request "status" = .ok status) :
    imagesRoute request = listing status (Page.normalize limit offset) >>= fun records =>
      pure (.json 200 (presentPage request.server (Page.normalize limit offset) records)) := by
  unfold imagesRoute
  rw [limited, placed, chosen]
  dsimp only
  rw [listRecords_eq, Page.normalize_normalize]

theorem serve_images (server : Server)
    (found : Route.resolve request.method request.path = .found .images)
    (faultless : site.faults = []) (limited : integerPart request "limit" Page.usualLimit = .ok limit)
    (placed : integerPart request "offset" 0 = .ok offset) (near : Draft.fits offset = true)
    (chosen : statusPart request "status" = .ok status) :
    let page := Page.normalize limit offset
    let rows := site.catalogue.paged site.scan status page
    (serve server request).run Site.answer site =
        (settle server request (.ok (.json 200 (presentPage request.server page rows))), site) ∧
      (serve server request).trace Site.answer site = [listed status page (.ok rows)] := by
  intro page rows
  have small : offset < 0x8000000000000000 := ((fits_iff offset).mp near).2
  obtain ⟨ran, asked⟩ := run_listing faultless limit offset status
  rw [checkBounds_normalize, if_pos small] at ran asked
  rw [serve_eq found]
  unfold answerRoute
  rw [imagesRoute_eq limited placed chosen]
  constructor
  · rw [Script.run_bind, run_bind_ok ran]
    rfl
  · rw [Script.trace_bind, trace_bind_ok ran, asked]
    rfl

/-- The response shows the images of a page and says which page it is, and nothing has changed. -/
def Shows (server : Server) (site : Site) (request : Request) (page : Page) (images : List Json) : Prop :=
  ∃ response, (serve server request).run Site.answer site = (response, site) ∧ response.status = 200 ∧
    response.body = .json (.object
      [("images", .array images),
       ("total", .int images.length),
       ("limit", .int page.limit),
       ("offset", .int page.offset)])

theorem Shows.unique {page page' : Page} {images images' : List Json}
    (shown : Shows server site request page images) (again : Shows server site request page' images') :
    images = images' := by
  obtain ⟨response, served, -, body⟩ := shown
  obtain ⟨_, served', -, body'⟩ := again
  cases served.symm.trans served'
  have same := body.symm.trans body'
  injection same with same
  injection same with members
  injection members with first
  injection first with _ value
  injection value

def Request.startingAt (request : Request) (offset : ℕ) : Request :=
  { request with query := request.query ++ [("offset", toString offset)] }

theorem lastNamed_append {α : Type} (name other : String) (entries : List (String × α)) (value : α) :
    lastNamed name (entries ++ [(other, value)]) =
      if name == other then some value else lastNamed name entries := by
  rw [lastNamed, List.reverse_append, List.reverse_singleton, List.singleton_append, List.lookup_cons]
  cases name == other <;> rfl

theorem integerPart_startingAt {n : ℕ} (near : n < 0x8000000000000000) :
    integerPart (request.startingAt n) "offset" 0 = .ok (n : Int) := by
  simp only [integerPart, Request.startingAt, lastNamed_append, beq_self_eq_true, if_true,
    Offered.integerOf_toString near]

/-- A client reads page after page, each from behind the one before, up to a page with room left. -/
inductive Walks (server : Server) (site : Site) (request : Request) (most : ℕ) :
    ℕ → List (List Json) → Prop where
  | last {offset : ℕ} {images : List Json}
      (shown : Shows server site (request.startingAt offset) ⟨most, offset⟩ images)
      (room : images.length < most) : Walks server site request most offset [images]
  | further {offset : ℕ} {images : List Json} {pages : List (List Json)}
      (shown : Shows server site (request.startingAt offset) ⟨most, offset⟩ images)
      (full : most ≤ images.length) (rest : Walks server site request most (offset + most) pages) :
      Walks server site request most offset (images :: pages)

theorem Walks.unique {most start : ℕ} {pages pages' : List (List Json)}
    (walk : Walks server site request most start pages)
    (again : Walks server site request most start pages') : pages = pages' := by
  induction walk generalizing pages' with
  | last shown room =>
      cases again with
      | last shown' => rw [shown.unique shown']
      | further shown' full =>
          cases shown.unique shown'
          omega
  | further shown full rest ih =>
      cases again with
      | last shown' room =>
          cases shown.unique shown'
          omega
      | further shown' full' rest' => rw [shown.unique shown', ih rest']

theorem exists_walk {most n : ℕ} {images : List Json} (positive : 0 < most) (reached : n ≤ images.length)
    (shown : ∀ n ≤ images.length,
      Shows server site (request.startingAt n) ⟨most, n⟩ ((images.drop n).take most)) :
    ∃ pages, Walks server site request most n pages ∧ (∀ page ∈ pages, page.length ≤ most) ∧
      pages.flatten = images.drop n := by
  -- each full page leaves fewer images to be shown
  induction remaining : images.length - n using Nat.strong_induction_on generalizing n with
  | h left ih =>
      have count : ((images.drop n).take most).length = min most left := by
        rw [List.length_take, List.length_drop, remaining]
      by_cases room : left < most
      · refine ⟨_, .last (shown n reached) (by omega), ?_, ?_⟩
        · rintro page (_ | ⟨_, ⟨⟩⟩)
          exact List.length_take_le most _
        · rw [List.flatten_singleton, List.take_of_length_le]
          rw [List.length_drop]
          omega
      · obtain ⟨pages, walk, bounded, others⟩ :=
          ih (left - most) (by omega) (n := n + most) (by omega) (by omega)
        refine ⟨_, .further (shown n reached) (by omega) walk, ?_, ?_⟩
        · exact List.forall_mem_cons.mpr ⟨List.length_take_le most _, bounded⟩
        · rw [List.flatten_cons, others, ← List.drop_drop, List.take_append_drop]

section Complete

variable (server : Server) (found : Route.resolve request.method request.path = .found .images)
  (faultless : site.faults = []) (limited : integerPart request "limit" Page.usualLimit = .ok limit)
  (chosen : statusPart request "status" = .ok status)
include found faultless limited chosen

theorem shows_page (placed : integerPart request "offset" 0 = .ok offset)
    (near : Draft.fits offset = true) :
    let page := Page.normalize limit offset
    let rows := site.catalogue.paged site.scan status page
    Shows server site request page (rows.map (present request.server)) ∧
      (serve server request).trace Site.answer site = [listed status page (.ok rows)] := by
  intro page rows
  obtain ⟨served, asked⟩ := serve_images server found faultless limited placed near chosen
  refine ⟨⟨_, served, rfl, ?_⟩, asked⟩
  rw [List.length_map]
  rfl

theorem shows_startingAt {n : ℕ} (near : n < 0x8000000000000000) :
    Shows server site (request.startingAt n) ⟨Page.most limit, n⟩
      ((((site.catalogue.ordered site.scan status).map (present request.server)).drop n).take
        (Page.most limit)) := by
  have found' : Route.resolve (request.startingAt n).method (request.startingAt n).path =
    .found .images := found
  have limited' : integerPart (request.startingAt n) "limit" Page.usualLimit = .ok limit := by
    rw [← limited]
    simp only [integerPart, Request.startingAt, lastNamed_append]
    rfl
  have chosen' : statusPart (request.startingAt n) "status" = .ok status := by
    rw [← chosen]
    simp only [statusPart, Request.startingAt, lastNamed_append]
    rfl
  have fitting : Draft.fits (n : Int) = true := (fits_iff _).mpr (by omega)
  have shown := (shows_page server found' faultless limited' chosen'
    (integerPart_startingAt near) fitting).1
  simp only [Page.normalize_eq, Catalogue.paged, Int.toNat_natCast, max_eq_left (Int.natCast_nonneg n),
    List.map_take, List.map_drop] at shown
  exact shown

end Complete

/-- A page shows the rows between the bounds it reports, and the table was asked for these bounds. Unless
the table has more rows than the database counts, whoever goes on behind the last row shown, up to a page
with room left, sees every row that matches once, and the newest first. -/
theorem paging_complete (server : Server) (site : Site) (faultless : site.faults = []) (request : Request)
    (found : Route.resolve request.method request.path = .found .images) (limit : Int)
    (limited : integerPart request "limit" Page.usualLimit = .ok limit) (status : Option Status)
    (chosen : statusPart request "status" = .ok status) :
    (∀ offset, integerPart request "offset" 0 = .ok offset → Draft.fits offset = true →
      let page : Page := ⟨Page.most limit, max offset 0⟩
      let rows := site.catalogue.paged site.scan status page
      Shows server site request page (rows.map (present request.server)) ∧
        (serve server request).trace Site.answer site = [listed status page (.ok rows)]) ∧
    1 ≤ Page.most limit ∧ Page.most limit ≤ 100 ∧
    (Draft.fits site.catalogue.rows.length = true →
      ∃ pages, Walks server site request (Page.most limit) 0 pages ∧
        (∀ others, Walks server site request (Page.most limit) 0 others → others = pages) ∧
        (∀ images ∈ pages, images.length ≤ Page.most limit) ∧
        ∃ rows : List Record, pages.flatten = rows.map (present request.server) ∧
          rows.Perm (site.catalogue.matching status) ∧
          rows.Pairwise fun a b => b.createdAt ≤ a.createdAt) := by
  obtain ⟨positive, bound⟩ := Page.most_bounds limit
  refine ⟨fun offset placed near => ?_, positive, bound, fun counted => ?_⟩
  · rw [← Page.normalize_eq]
    exact shows_page server found faultless limited chosen placed near
  · let images := (site.catalogue.ordered site.scan status).map (present request.server)
    have total : images.length ≤ site.catalogue.rows.length :=
      (List.length_map _).trans_le (site.catalogue.length_ordered_le site.scan status)
    have small := ((fits_iff _).mp counted).2
    obtain ⟨pages, walk, bounded, all⟩ := exists_walk positive (Nat.zero_le images.length)
      fun n reached => shows_startingAt server found faultless limited chosen (by omega)
    exact ⟨pages, walk, fun others again => again.unique walk, bounded, _, all,
      site.catalogue.ordered_perm site.scan status, site.catalogue.ordered_pairwise site.scan status⟩

def waiting : Site := .stocked
  [{ (default : Record) with id := "a", status := "pending", createdAt := ⟨7⟩ },
    { (default : Record) with id := "b", status := "completed", createdAt := ⟨9⟩ },
    { (default : Record) with id := "c", status := "pending", createdAt := ⟨8⟩ },
    { (default : Record) with id := "d", status := "pending", createdAt := ⟨7⟩ }]

def twoWaiting : Request :=
  { pageFrom "0" with query := [("limit", "2"), ("status", "pending")] }

theorem twoWaiting_complete : ∃ pages, Walks photoServer waiting twoWaiting 2 0 pages ∧
    (∀ images ∈ pages, images.length ≤ 2) ∧ pages.flatten.length = 3 := by
  have limited : integerPart twoWaiting "limit" Page.usualLimit = .ok 2 := by decide +kernel
  obtain ⟨-, -, -, complete⟩ := paging_complete photoServer waiting rfl twoWaiting (pageFrom_found "0") 2
    limited (some .pending) rfl
  obtain ⟨pages, walk, -, bounded, rows, all, once, -⟩ := complete (by decide)
  refine ⟨pages, walk, bounded, ?_⟩
  rw [all, List.length_map, once.length_eq]
  rfl

end Web

end ImagePipeline
