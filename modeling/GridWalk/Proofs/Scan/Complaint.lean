import GridWalk.Proofs.Scan.Recognition

/-!
# `GridWalk.Proofs.Scan.Complaint`: what a rule complains about

A parse error speaks of a place in the whole text. A rule sees only what is left to read, so its
error is split here: a `Complaint` says what was expected in front of which end of the text, and
`Complaint.error` adds line and column. `Rule.Rejects r b` says that the failures of the rule `r`
are exactly the complaints `b` about what is left to read.

* `rejects_missing`: a rule that reports what is missing at the place where it starts.
* `Rejects.bind`, `Rejects.ite` and `Rejects.many`: rules in a row, of choice and repeated.
* `rejects_number` and its siblings: one statement for each primitive.
-/

set_option autoImplicit false

namespace GridWalk

/-- What was expected in front of an end of a text. If the complaint is about size, then a number
is there, and it is too large. -/
structure Complaint where
  expected : String
  here : List Char
  oversized : Bool

namespace Cursor

variable {c d : Cursor} {rest : List Char}

/-- The cursor in front of an end of the text. -/
def before (text rest : List Char) : Cursor :=
  (start text).seek (text.length - rest.length)

/-- Every cursor inside is the one in front of what it has left. -/
theorem Leads.eq_before (h : c.Leads d) : d = before c.text d.rest := by
  have hsum := h.inside.pos_add_length_rest
  rw [h.text_eq] at hsum
  refine eq_of_pos_eq h.text_eq ?_
  show d.pos = (c.text.length : Int) - d.rest.length
  omega

/-- A cursor inside is the one in front of what it has left. -/
theorem Inside.eq_before (h : c.Inside) : c = before c.text c.rest :=
  h.leads_self.eq_before

/-- The cursor in front of an end of the text stands behind the beginning of the text. -/
theorem before_append (first rest : List Char) :
    before (first ++ rest) rest = (start (first ++ rest)).seek first.length := by
  refine eq_of_pos_eq rfl ?_
  show ((first ++ rest).length : Int) - rest.length = first.length
  rw [List.length_append]
  omega

/-- The cursor in front of an end of the text has that end left. -/
theorem rest_before_append (first rest : List Char) :
    (before (first ++ rest) rest).rest = rest := by
  rw [before_append]
  show Text.readFrom (first ++ rest) first.length = rest
  rw [Text.readFrom_natCast, List.drop_left]

end Cursor

namespace Complaint

/-- What is left to read after the failure. An oversized number has been read. -/
def left (k : Complaint) : List Char :=
  if k.oversized then k.here.dropWhile Char.isDigit else k.here

/-- The complaint as a parse error about the whole text. -/
def error (text : List Char) (k : Complaint) : ParseError :=
  if k.oversized then
    Rule.oversized (.before text k.here) k.expected (k.here.takeWhile Char.isDigit)
  else (Cursor.before text k.here).error k.expected none

variable {c : Cursor}

/-- The error where something is missing is the one of the cursor itself. -/
theorem error_missing (hc : c.Inside) (expected : String) :
    error c.text ⟨expected, c.rest, false⟩ = c.error expected none := by
  show (Cursor.before c.text c.rest).error expected none = c.error expected none
  rw [← hc.eq_before]

/-- The error about a number that is too large is the one of the run of digits. -/
theorem error_oversized (hc : c.Inside) (expected : String) :
    error c.text ⟨expected, c.rest, true⟩
      = Rule.oversized c expected (c.rest.takeWhile Char.isDigit) := by
  show Rule.oversized (Cursor.before c.text c.rest) expected _ = _
  rw [← hc.eq_before]

end Complaint

namespace Rule

open GridWalk.Grammar
open GridWalk.Text (isBlank numeralValue?_eq_some_iff)

variable {α β : Type} {c d : Cursor} {e : ParseError}

/-- Complaints about a text. -/
abbrev Blame : Type :=
  List Char → Complaint → Prop

/-- The rule fails with the complaints `b`, and only with them. -/
structure Rejects (r : Rule α) (b : Blame) : Prop where
  error_iff {c d : Cursor} {e : ParseError} :
    c.Inside → (r c = .error e d ↔
      ∃ k, b c.rest k ∧ e = k.error c.text ∧ d = .before c.text k.left)

/-- What a rule complains about can be said in other words. -/
theorem Rejects.congr {r : Rule α} {b b' : Blame} (hr : Rejects r b)
    (hb : ∀ {text k}, b text k ↔ b' text k) : Rejects r b' where
  error_iff hc := by
    rw [hr.error_iff hc]
    simp only [hb]

/-- On each text, a rule succeeds and there is no complaint, or it fails with the only complaint
that there is. -/
theorem Rejects.of_cases {r : Rule α} {b : Blame}
    (h : ∀ {c : Cursor}, c.Inside →
      ((∃ a d, r c = .ok a d) ∧ ∀ k, ¬b c.rest k) ∨
      ∃ k, r c = .error (Complaint.error c.text k) (.before c.text k.left) ∧
        ∀ k', b c.rest k' ↔ k' = k) : Rejects r b := by
  refine ⟨fun {c d e} hc => ?_⟩
  rcases h hc with ⟨⟨a, m, hok⟩, hnone⟩ | ⟨k, hfail, honly⟩
  · rw [hok]
    constructor
    · intro h
      cases h
    · intro h
      obtain ⟨k, hk, -⟩ := h
      exact absurd hk (hnone k)
  · rw [hfail]
    constructor
    · intro h
      cases h
      exact ⟨k, (honly k).mpr rfl, rfl, rfl⟩
    · rintro ⟨k', hk, rfl, rfl⟩
      rw [(honly k').mp hk]

/-- A rule that always succeeds has no complaints. -/
theorem rejects_never {r : Rule α} (hr : ∀ c, ∃ a d, r c = .ok a d) :
    Rejects r (fun _ _ => False) :=
  .of_cases fun {c} _ => .inl ⟨hr c, fun _ => id⟩

/-- The complaint that something is missing where a text starts. -/
def Missing (expected : String) (stuck : List Char → Prop) : Blame := fun text k =>
  stuck text ∧ k = ⟨expected, text, false⟩

/-- A rule that fails where it is stuck, and there only, says what is missing. -/
theorem rejects_missing {r : Rule α} {expected : String} {stuck : List Char → Prop}
    (hstuck : ∀ {c : Cursor}, c.Inside → stuck c.rest → r c = .error (c.error expected none) c)
    (hok : ∀ {c : Cursor}, c.Inside → ¬stuck c.rest → ∃ a d, r c = .ok a d) :
    Rejects r (Missing expected stuck) := by
  refine .of_cases fun {c} hc => ?_
  by_cases h : stuck c.rest
  · refine .inr ⟨⟨expected, c.rest, false⟩, ?_, fun k => ?_⟩
    · rw [hstuck hc h, Complaint.error_missing hc]
      exact congrArg (EStateM.Result.error _) hc.eq_before
    · simp [Missing, h]
  · exact .inl ⟨hok hc h, fun k hk => h hk.1⟩

/-! ### Rules in a row -/

/-- A sequence fails in its first part, or in the second one after the first. -/
theorem bind_eq_error_iff {r : Rule α} {f : α → Rule β} :
    (r >>= f) c = .error e d ↔
      r c = .error e d ∨ ∃ a m, r c = .ok a m ∧ f a m = .error e d := by
  change EStateM.bind r f c = _ ↔ _
  unfold EStateM.bind
  cases r c with
  | ok a m =>
    simp only [reduceCtorEq, false_or, EStateM.Result.ok.injEq]
    constructor
    · intro h
      exact ⟨a, m, ⟨rfl, rfl⟩, h⟩
    · rintro ⟨_, _, ⟨rfl, rfl⟩, h⟩
      exact h
  | error x m => simp

/-- Rules in a row complain about the first part, or about the second part after a phrase of the
first. -/
theorem Rejects.bind {r : Rule α} {f : α → Rule β} {p : Phrase α} {b : Blame} {b' : α → Blame}
    (hreads : Reads r p) (hr : Rejects r b) (hf : ∀ a, Rejects (f a) (b' a)) :
    Rejects (r >>= f) (fun text k => b text k ∨ ∃ a mid, p text a mid ∧ b' a mid k) := by
  refine ⟨fun {c d e} hc => ?_⟩
  rw [bind_eq_error_iff]
  constructor
  · rintro (hfirst | ⟨a, m, hok, hsecond⟩)
    · obtain ⟨k, hk, he⟩ := (hr.error_iff hc).mp hfirst
      exact ⟨k, .inl hk, he⟩
    · obtain ⟨hphrase, hcm⟩ := (hreads.ok_iff hc).mp hok
      obtain ⟨k, hk, he⟩ := ((hf a).error_iff hcm.inside).mp hsecond
      rw [hcm.text_eq] at he
      exact ⟨k, .inr ⟨a, m.rest, hphrase, hk⟩, he⟩
  · rintro ⟨k, hk | ⟨a, mid, hphrase, hk⟩, he⟩
    · exact .inl ((hr.error_iff hc).mpr ⟨k, hk, he⟩)
    · -- The phrase ends in front of `mid`, where some cursor stands.
      obtain ⟨m, hcm, rfl⟩ := hc.exists_leads (hreads.isSuffix hphrase)
      rw [← hcm.text_eq] at he
      have hsecond := ((hf a).error_iff hcm.inside).mpr ⟨k, hk, he⟩
      exact .inr ⟨a, m, (hreads.ok_iff hc).mpr ⟨hphrase, hcm⟩, hsecond⟩

/-- A rule that looks first which of two rules applies complains as that rule does. -/
theorem Rejects.ite {stop : Cursor → Bool} (stops : List Char → Prop) {r s : Rule α}
    {b b' : Blame} (hr : Rejects r b)
    (hstop : ∀ {c : Cursor}, c.Inside → (stop c = true ↔ stops c.rest)) (hs : Rejects s b') :
    Rejects (get >>= fun c => if stop c then r else s) (fun text k =>
      (stops text ∧ b text k) ∨ (¬stops text ∧ b' text k)) := by
  refine ⟨fun {c d e} hc => ?_⟩
  have hrun : (get >>= fun c => if stop c then r else s) c = if stop c then r c else s c := by
    show (if stop c = true then r else s) c = _
    split <;> rfl
  rw [hrun]
  by_cases hstops : stops c.rest
  · rw [if_pos ((hstop hc).mpr hstops), hr.error_iff hc]
    simp [hstops]
  · rw [if_neg fun h => hstops ((hstop hc).mp h), hs.error_iff hc]
    simp [hstops]

/-! ### Repetition -/

/-- A repetition fails in its first round or in a later one. -/
theorem many_eq_error_iff {again : Cursor → Bool} {r : Rule α} {eager : r.Eager} :
    many again r eager c = .error e d ↔
      again c = true ∧ (r c = .error e d ∨
        ∃ a m, r c = .ok a m ∧ many again r eager m = .error e d) := by
  rw [many]
  cases hagain : again c with
  | false => simp
  | true =>
    simp only [if_true, true_and]
    split
    · next x m hrun => simp [hrun]
    · next a m hrun =>
      have hlater : (∃ a' m', r c = .ok a' m' ∧ many again r eager m' = .error e d) ↔
          many again r eager m = .error e d := by
        rw [hrun]
        constructor
        · rintro ⟨_, _, heq, h⟩
          cases heq
          exact h
        · exact fun h => ⟨a, m, rfl, h⟩
      rw [hlater, hrun]
      cases many again r eager m <;> simp

/-- A repetition complains about a round that it begins, after phrases of the rounds before. -/
theorem Rejects.many {again : Cursor → Bool} {r : Rule α} {p : Phrase α} {b : Blame}
    {goesOn : List Char → Prop} (hreads : Reads r p) (hr : Rejects r b) (eager : r.Eager)
    (hagain : ∀ {c : Cursor}, c.Inside → (again c = true ↔ goesOn c.rest))
    (hgoesOn : ∀ {text a rest}, p text a rest → goesOn text) :
    Rejects (many again r eager) (fun text k =>
      ∃ as mid, Many p text as mid ∧ goesOn mid ∧ b mid k) := by
  refine ⟨fun {c d e} hc => ?_⟩
  constructor
  · -- Each round brings the end nearer, which bounds the rounds before the failure.
    induction hsize : c.remaining using Nat.strongRecOn generalizing c with
    | ind size ih =>
      subst hsize
      intro hrun
      obtain ⟨hgo, hfail | ⟨a, m, hok, hlater⟩⟩ := many_eq_error_iff.mp hrun
      · obtain ⟨k, hk, he⟩ := (hr.error_iff hc).mp hfail
        exact ⟨k, ⟨[], c.rest, .nil, (hagain hc).mp hgo, hk⟩, he⟩
      · obtain ⟨hphrase, hcm⟩ := (hreads.ok_iff hc).mp hok
        obtain ⟨k, ⟨as, mid, hmany, hk⟩, he⟩ := ih m.remaining (eager hok) hcm.inside rfl hlater
        rw [hcm.text_eq] at he
        exact ⟨k, ⟨a :: as, mid, .cons hphrase hmany, hk⟩, he⟩
  · rintro ⟨k, ⟨as, mid, hmany, hgo, hk⟩, he⟩
    generalize htext : c.rest = text at hmany
    induction hmany generalizing c with
    | nil =>
      subst htext
      exact many_eq_error_iff.mpr ⟨(hagain hc).mpr hgo, .inl ((hr.error_iff hc).mpr ⟨k, hk, he⟩)⟩
    | @cons text mid rest a as first _ ih =>
      subst htext
      obtain ⟨m, hcm, rfl⟩ := hc.exists_leads (hreads.isSuffix first)
      rw [← hcm.text_eq] at he
      refine many_eq_error_iff.mpr ⟨(hagain hc).mpr (hgoesOn first), .inr ⟨a, m, ?_, ?_⟩⟩
      · exact (hreads.ok_iff hc).mpr ⟨first, hcm⟩
      · exact ih hcm.inside he hgo hk rfl

/-! ### Primitives -/

/-- Nothing runs on where a text does not start with the class. -/
theorem takeWhile_isEmpty_iff {p : Char → Bool} {text : List Char} :
    (text.takeWhile p).isEmpty = true ↔ Stops p text := by
  rw [List.isEmpty_iff]
  constructor
  · intro h
    have hsplit := List.takeWhile_append_dropWhile (p := p) (l := text)
    rw [h, List.nil_append] at hsplit
    rw [← hsplit]
    exact stops_dropWhile p text
  · exact takeWhile_eq_nil

/-- A word is missing where the text does not start with it. -/
theorem rejects_literal (word : List Char) (expected : String) :
    Rejects (literal word expected) (Missing expected fun text => ¬word <+: text) := by
  refine rejects_missing (fun {c} hc h => ?_) (fun {c} hc h => ?_) <;>
    rw [← hc.startsWith_iff] at h
  · exact if_neg h
  · exact ⟨_, _, if_pos (Decidable.not_not.mp h)⟩

/-- Spaces are missing in front of anything else. -/
theorem rejects_spaces (expected : String) :
    Rejects (spaces expected) (Missing expected (Stops (· == ' '))) := by
  refine rejects_missing (fun {c} _ h => ?_) (fun {c} _ h => ?_) <;>
    rw [← takeWhile_isEmpty_iff] at h
  · exact if_pos h
  · exact ⟨_, _, if_neg h⟩

/-- The letters of headings. -/
def isHeadingLetter (c : Char) : Bool :=
  (Heading.ofLetter? c).isSome

/-- A heading is missing in front of any character that is not its letter. -/
theorem rejects_heading (expected : String) :
    Rejects (heading expected) (Missing expected (Stops isHeadingLetter)) := by
  have hletter : ∀ text : List Char,
      Stops isHeadingLetter text ↔ text.head?.bind Heading.ofLetter? = none := by
    intro text
    cases text with
    | nil => simp [stops_nil]
    | cons letter others => simp [stops_cons, isHeadingLetter]
  refine rejects_missing (fun {c} _ h => ?_) (fun {c} _ h => ?_) <;> rw [hletter] at h <;>
    unfold heading Cursor.peek
  · rw [h]
  · obtain ⟨x, hx⟩ := Option.ne_none_iff_exists'.mp h
    exact ⟨x, _, by rw [hx]⟩

/-- Commands are missing in front of any character that is no command letter. -/
theorem rejects_commands (expected : String) :
    Rejects (commands expected) (Missing expected (Stops isCommandLetter)) := by
  have hnil : ∀ text : List Char,
      Stops isCommandLetter text ↔ (Command.readAll text).isEmpty = true := by
    intro text
    cases text with
    | nil => simp [Command.readAll, stops_nil]
    | cons letter others =>
      rw [stops_cons, Command.readAll, isCommandLetter]
      cases Command.ofLetter? letter <;> simp
  refine rejects_missing (fun {c} _ h => ?_) (fun {c} _ h => ?_) <;> rw [hnil] at h
  · exact if_pos h
  · exact ⟨_, _, if_neg h⟩

/-- An optional line end is never missing. -/
theorem rejects_optionalEndOfLine : Rejects optionalEndOfLine (fun _ _ => False) := by
  refine rejects_never fun c => ?_
  unfold optionalEndOfLine
  split
  · exact ⟨_, _, rfl⟩
  · split <;> exact ⟨_, _, rfl⟩

/-- Blanks are never missing. -/
theorem rejects_skipBlanks : Rejects skipBlanks (fun _ _ => False) :=
  rejects_never fun _ => ⟨_, _, rfl⟩

/-- The rule that reads nothing misses nothing. -/
theorem rejects_pure (a : α) : Rejects (pure a : Rule α) (fun _ _ => False) :=
  rejects_never fun c => ⟨a, c, rfl⟩

/-- A line end is missing where there is none. A carriage return alone is none. -/
theorem rejects_endOfLine (expected : String) :
    Rejects (endOfLine expected) (Missing expected fun text => ∀ rest, ¬LineEnd text rest) := by
  refine rejects_missing (fun {c} hc h => ?_) (fun {c} hc h => ?_)
  · have hrun : optionalEndOfLine c = .ok false c :=
      (reads_optionalEndOfLine.ok_iff hc).mpr ⟨.none h, hc.leads_self⟩
    simp [endOfLine, hrun]
  · obtain ⟨rest, hend⟩ := Classical.not_forall_not.mp h
    obtain ⟨d, hleads, rfl⟩ := hc.exists_leads ((reads_endOfLine expected).isSuffix (a := ()) hend)
    exact ⟨(), d, ((reads_endOfLine expected).ok_iff hc).mpr ⟨hend, hleads⟩⟩

/-- A digit is missing in front of anything else. -/
theorem rejects_aheadDigit (expected : String) :
    Rejects (aheadDigit expected) (Missing expected (Stops Char.isDigit)) := by
  have hdigit : ∀ c : Cursor, Stops Char.isDigit c.rest ↔ ¬c.atDigit = true := by
    intro c
    unfold Cursor.atDigit Cursor.peek
    cases c.rest with
    | nil => simp [stops_nil]
    | cons letter others => simp [stops_cons]
  refine rejects_missing (fun {c} _ h => ?_) (fun {c} _ h => ?_) <;> rw [hdigit] at h
  · exact if_neg h
  · exact ⟨_, _, if_pos (Decidable.not_not.mp h)⟩

/-- The text starts with a run of digits whose value does not fit. -/
def Oversized (text : List Char) : Prop :=
  Text.maxNumber < Nat.ofDigitChars 10 (text.takeWhile Char.isDigit) 0

/-- An oversized number has a first digit. -/
theorem Oversized.not_stops {text : List Char} (h : Oversized text) :
    ¬Stops Char.isDigit text := by
  intro hstops
  unfold Oversized at h
  rw [takeWhile_eq_nil hstops] at h
  exact absurd h (by decide)

/-- The complaint about an oversized number, at its first digit. -/
def TooLarge (expected : String) : Blame := fun text k =>
  Oversized text ∧ k = ⟨expected, text, true⟩

/-- Behind a run of a class, its end is in front. -/
theorem before_dropWhile (hc : c.Inside) (p : Char → Bool) :
    Cursor.before c.text (c.rest.dropWhile p) = c.advance (c.rest.takeWhile p).length := by
  have hsplit : c.rest = c.rest.takeWhile p ++ c.rest.dropWhile p :=
    List.takeWhile_append_dropWhile.symm
  rw [(hc.leads_advance hsplit).eq_before, hc.rest_advance_length hsplit]

/-- A number is missing in front of anything but a digit, or it is too large. -/
theorem rejects_number (expected : String) :
    Rejects (number expected) (fun text k =>
      Missing expected (Stops Char.isDigit) text k ∨ TooLarge expected text k) := by
  refine .of_cases fun {c} hc => ?_
  have hrun : ∀ d ∈ c.rest.takeWhile Char.isDigit, d.isDigit = true :=
    List.all_eq_true.mp List.all_takeWhile
  have hover : Text.numeralValue? (c.rest.takeWhile Char.isDigit) = none ↔ Oversized c.rest :=
    Text.numeralValue?_eq_none_iff hrun
  unfold number
  simp only [written_eq hc]
  split
  · -- Without a digit, the number is missing and not too large.
    next hnil =>
    have hstops := takeWhile_isEmpty_iff.mp hnil
    have hfits : ¬Oversized c.rest := fun h => h.not_stops hstops
    refine .inr ⟨⟨expected, c.rest, false⟩, ?_, fun k => ?_⟩
    · rw [Complaint.error_missing hc]
      exact congrArg (EStateM.Result.error _) hc.eq_before
    · simp [Missing, TooLarge, hstops, hfits]
  · next hsome =>
    have hstarts : ¬Stops Char.isDigit c.rest := mt takeWhile_isEmpty_iff.mpr hsome
    split
    · next n hvalue =>
      have hfits : ¬Oversized c.rest := by
        intro h
        rw [hover.mpr h] at hvalue
        cases hvalue
      refine .inl ⟨⟨_, _, rfl⟩, fun k hk => ?_⟩
      rcases hk with hmissing | hlarge
      · exact hstarts hmissing.1
      · exact hfits hlarge.1
    · next hvalue =>
      refine .inr ⟨⟨expected, c.rest, true⟩, ?_, fun k => ?_⟩
      · rw [Complaint.error_oversized hc]
        exact congrArg (EStateM.Result.error _) (before_dropWhile hc Char.isDigit).symm
      · simp [Missing, TooLarge, hstarts, hover.mp hvalue]

end Rule

end GridWalk
