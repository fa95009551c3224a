import GridWalk.Proofs.Grammar
import GridWalk.Proofs.Scan.Inside
import GridWalk.Proofs.Text.Numeral
import GridWalk.Scan.Progress

/-!
# `GridWalk.Proofs.Scan.Recognition`: what a rule recognizes

`Rule.Reads r p` says that the successes of the rule `r` are exactly the phrases `p`: from a
cursor inside, `r` succeeds with a value and a cursor when what lies between the two cursors is a
phrase for that value. A rule reads as much as it can, so its phrases end where a longer run
would be possible (`Stops`).

* `Reads.of_answers`: a rule that answers with the only phrase, or fails where none starts.
* `Reads.bind`: rules in a row read phrases in a row.
* `Reads.many`: a repetition reads many phrases and ends where none can start.
* `reads_number` and its siblings: one statement for each primitive.
-/

set_option autoImplicit false

namespace GridWalk.Rule

open GridWalk.Grammar
open GridWalk.Text (isBlank numeralValue?_eq_some_iff)

variable {α β : Type}

/-- The rule succeeds on the phrases `p`, and only on them. -/
structure Reads (r : Rule α) (p : Phrase α) : Prop where
  isSuffix {text rest : List Char} {a : α} : p text a rest → rest <:+ text
  ok_iff {c d : Cursor} {a : α} :
    c.Inside → (r c = .ok a d ↔ p c.rest a d.rest ∧ c.Leads d)

/-- One phrase and then another, which may depend on the value of the first. -/
def andThen (p : Phrase α) (q : α → Phrase β) : Phrase β := fun text b rest =>
  ∃ a mid, p text a mid ∧ q a mid b rest

/-- What a rule may answer at the cursor `c` if it is to read the phrases `p`. Either it reads a
phrase, which then is the only one that starts here, or it fails where none starts. -/
inductive Answers (p : Phrase α) (c : Cursor) : EStateM.Result ParseError Cursor α → Prop
  | ok {d : Cursor} {a : α} (leads : c.Leads d) (phrase : p c.rest a d.rest)
      (only : ∀ {b rest}, p c.rest b rest → b = a ∧ rest = d.rest) : Answers p c (.ok a d)
  | error {d : Cursor} {e : ParseError} (none : ∀ {a rest}, ¬p c.rest a rest) :
      Answers p c (.error e d)

/-- A step over the only phrase that starts here. -/
theorem Answers.advance {p : Phrase α} {c : Cursor} {a : α} {word rest : List Char}
    (hc : c.Inside) (hsplit : c.rest = word ++ rest) (hphrase : p (word ++ rest) a rest)
    (honly : ∀ {b rest'}, p (word ++ rest) b rest' → b = a ∧ rest' = rest) :
    Answers p c (.ok a (c.advance word.length)) := by
  have hrest := hc.rest_advance_length hsplit
  refine .ok (hc.leads_advance hsplit) ?_ fun {b rest'} hother => ?_
  · rw [hrest, hsplit]
    exact hphrase
  · rw [hrest]
    rw [hsplit] at hother
    exact honly hother

/-- A rule whose answers are right everywhere reads its phrases. -/
theorem Reads.of_answers {r : Rule α} {p : Phrase α}
    (hp : ∀ {text a rest}, p text a rest → rest <:+ text)
    (hr : ∀ {c : Cursor}, c.Inside → Answers p c (r c)) : Reads r p := by
  refine ⟨hp, fun {c d a} hc => ?_⟩
  have hanswer := hr hc
  generalize r c = answer at hanswer
  cases hanswer with
  | ok leads phrase only =>
    constructor
    · intro h
      cases h
      exact ⟨phrase, leads⟩
    · rintro ⟨hphrase, hleads⟩
      obtain ⟨rfl, hrest⟩ := only hphrase
      rw [leads.eq_of_rest_eq hleads hrest.symm]
  | error none =>
    simp only [reduceCtorEq, false_iff]
    exact fun h => none h.1

/-- What a rule reads can be said in other words. -/
theorem Reads.congr {r : Rule α} {p q : Phrase α} (hr : Reads r p)
    (hpq : ∀ {text a rest}, p text a rest ↔ q text a rest) : Reads r q where
  isSuffix hq := hr.isSuffix (hpq.mpr hq)
  ok_iff hc := (hr.ok_iff hc).trans (and_congr_left' hpq)

/-- No text starts with two of the phrases that a rule reads. -/
theorem Reads.unique {r : Rule α} {p : Phrase α} (hr : Reads r p) {text rest rest' : List Char}
    {a a' : α} (h : p text a rest) (h' : p text a' rest') : a = a' ∧ rest = rest' := by
  have hc := Cursor.inside_start text
  obtain ⟨d, hd, rfl⟩ := hc.exists_leads (hr.isSuffix h)
  obtain ⟨d', hd', rfl⟩ := hc.exists_leads (hr.isSuffix h')
  have hread : r (Cursor.start text) = .ok a d := (hr.ok_iff hc).mpr ⟨h, hd⟩
  have hread' : r (Cursor.start text) = .ok a' d' := (hr.ok_iff hc).mpr ⟨h', hd'⟩
  cases hread.symm.trans hread'
  exact ⟨rfl, rfl⟩

/-- The rule that reads nothing. -/
theorem reads_pure (a : α) :
    Reads (pure a : Rule α) (fun text b rest => b = a ∧ rest = text) := by
  refine .of_answers (fun h => h.2 ▸ List.suffix_refl _) fun {c} hc => ?_
  show Answers _ c (.ok a c)
  exact .ok hc.leads_self ⟨rfl, rfl⟩ fun h => h

/-- Rules in a row read phrases in a row. -/
theorem Reads.bind {r : Rule α} {f : α → Rule β} {p : Phrase α} {q : α → Phrase β}
    (hr : Reads r p) (hf : ∀ a, Reads (f a) (q a)) : Reads (r >>= f) (andThen p q) where
  isSuffix := by
    rintro text rest b ⟨a, mid, hfirst, hsecond⟩
    exact ((hf a).isSuffix hsecond).trans (hr.isSuffix hfirst)
  ok_iff {c d b} hc := by
    rw [bind_eq_ok_iff]
    constructor
    · rintro ⟨a, e, hre, hfe⟩
      obtain ⟨hfirst, hce⟩ := (hr.ok_iff hc).mp hre
      obtain ⟨hsecond, hed⟩ := ((hf a).ok_iff hce.inside).mp hfe
      exact ⟨⟨a, e.rest, hfirst, hsecond⟩, hce.trans hed⟩
    · intro h
      obtain ⟨⟨a, mid, hfirst, hsecond⟩, hcd⟩ := h
      -- The phrases only tell what is left between them. Some cursor has exactly that left.
      obtain ⟨e, hce, rfl⟩ := hc.exists_leads (hr.isSuffix hfirst)
      have hed : e.Leads d := ⟨hcd.text_eq.trans hce.text_eq.symm, hcd.inside⟩
      exact ⟨a, e, (hr.ok_iff hc).mpr ⟨hfirst, hce⟩,
        ((hf a).ok_iff hce.inside).mpr ⟨hsecond, hed⟩⟩

/-- A rule that looks first which of two rules applies reads what that rule reads. -/
theorem Reads.ite {stop : Cursor → Bool} (stops : List Char → Prop) {r s : Rule α}
    {p q : Phrase α} (hr : Reads r p)
    (hstop : ∀ {c : Cursor}, c.Inside → (stop c = true ↔ stops c.rest)) (hs : Reads s q) :
    Reads (get >>= fun c => if stop c then r else s) (fun text a rest =>
      (stops text ∧ p text a rest) ∨ (¬stops text ∧ q text a rest)) where
  isSuffix := by
    rintro text rest a (⟨-, h⟩ | ⟨-, h⟩)
    · exact hr.isSuffix h
    · exact hs.isSuffix h
  ok_iff {c d a} hc := by
    show (if stop c = true then r else s) c = .ok a d ↔ _
    rw [← hstop hc]
    split
    · next h => simp [h, hr.ok_iff hc]
    · next h => simp [h, hs.ok_iff hc]

/-! ### Repetition -/

/-- One round of a repetition: it ends here, or the rule is applied and the repetition goes
on. -/
theorem many_eq_ok_iff {again : Cursor → Bool} {r : Rule α} {eager : r.Eager} {c d : Cursor}
    {as : List α} :
    many again r eager c = .ok as d ↔
      (again c = false ∧ as = [] ∧ d = c) ∨
        (again c = true ∧ ∃ a e others,
          r c = .ok a e ∧ many again r eager e = .ok others d ∧ as = a :: others) := by
  rw [many]
  cases hagain : again c with
  | false => simp [eq_comm]
  | true =>
    simp only [if_true, Bool.true_eq_false, false_and, true_and, false_or]
    split
    · next x e hrun => simp [hrun]
    · next a e hrun =>
      simp only [hrun, EStateM.Result.ok.injEq]
      split
      · next x e' hothers =>
        simp only [reduceCtorEq, false_iff]
        intro h
        obtain ⟨_, _, _, ⟨rfl, rfl⟩, hok, _⟩ := h
        rw [hothers] at hok
        cases hok
      · next others e' hothers =>
        constructor
        · intro h
          cases h
          exact ⟨a, e, others, ⟨rfl, rfl⟩, hothers, rfl⟩
        · intro h
          obtain ⟨_, _, others', ⟨rfl, rfl⟩, hok, rfl⟩ := h
          rw [hothers] at hok
          cases hok
          rfl

/-- A repetition reads many phrases in a row, up to a place where it is not asked to go on. -/
theorem Reads.many {again : Cursor → Bool} {r : Rule α} {p : Phrase α}
    {goesOn : List Char → Prop} (hr : Reads r p) (eager : r.Eager)
    (hagain : ∀ {c : Cursor}, c.Inside → (again c = true ↔ goesOn c.rest))
    (hgoesOn : ∀ {text a rest}, p text a rest → goesOn text) :
    Reads (many again r eager) (fun text as rest => Many p text as rest ∧ ¬goesOn rest) where
  isSuffix := by
    rintro text rest as ⟨hmany, -⟩
    induction hmany with
    | nil => exact List.suffix_refl _
    | cons first _ ih => exact ih.trans (hr.isSuffix first)
  ok_iff {c d as} hc := by
    constructor
    · intro hrun
      -- A run of the repetition has one round for each value that it gives.
      induction as generalizing c with
      | nil =>
        rcases many_eq_ok_iff.mp hrun with ⟨hstop, -, rfl⟩ | ⟨-, _, _, _, -, -, hnil⟩
        · refine ⟨⟨.nil, fun hgo => ?_⟩, hc.leads_self⟩
          rw [(hagain hc).mpr hgo] at hstop
          cases hstop
        · cases hnil
      | cons a as ih =>
        rcases many_eq_ok_iff.mp hrun with ⟨-, hcons, -⟩ | ⟨-, _, e, _, hfirst, hothers, hcons⟩
        · cases hcons
        · cases hcons
          obtain ⟨hphrase, hce⟩ := (hr.ok_iff hc).mp hfirst
          obtain ⟨⟨hmany, hstop⟩, hed⟩ := ih hce.inside hothers
          exact ⟨⟨.cons hphrase hmany, hstop⟩, hce.trans hed⟩
    · rintro ⟨⟨hmany, hstop⟩, hcd⟩
      rw [many_eq_ok_iff]
      -- The induction is on the phrases, so the two cursors give way to what they have left.
      generalize htext : c.rest = text at hmany
      generalize hrest : d.rest = rest at hmany hstop
      induction hmany generalizing c with
      | nil =>
        refine .inl ⟨?_, rfl, hcd.eq_of_rest_eq hc.leads_self (hrest.trans htext.symm)⟩
        rw [← htext, ← hagain hc, Bool.not_eq_true] at hstop
        exact hstop
      | @cons text mid rest a others first _ ih =>
        subst htext
        obtain ⟨e, hce, rfl⟩ := hc.exists_leads (hr.isSuffix first)
        have hed : e.Leads d := ⟨hcd.text_eq.trans hce.text_eq.symm, hcd.inside⟩
        refine .inr ⟨(hagain hc).mpr (hgoesOn first), a, e, others, ?_, ?_, rfl⟩
        · exact (hr.ok_iff hc).mpr ⟨first, hce⟩
        · exact many_eq_ok_iff.mpr (ih hce.inside hed rfl hrest hstop)

/-! ### Words and letters -/

/-- Exactly the word is read. -/
theorem reads_literal (word : List Char) (expected : String) :
    Reads (literal word expected) (fun text _ rest => text = word ++ rest) := by
  refine .of_answers (fun h => ⟨word, h.symm⟩) fun {c} hc => ?_
  unfold literal
  split
  · next hstart =>
    obtain ⟨rest, hrest⟩ := hc.startsWith_iff.mp hstart
    exact .advance hc hrest.symm rfl fun hword => ⟨rfl, (List.append_cancel_left hword).symm⟩
  · next hstart =>
    exact .error fun {_ rest} hword => hstart (hc.startsWith_iff.mpr ⟨rest, hword.symm⟩)

/-- The letter of a heading is read. -/
theorem reads_heading (expected : String) :
    Reads (heading expected) (fun text h rest => text = h.letter :: rest) := by
  refine .of_answers (fun h => ⟨[_], h.symm⟩) fun {c} hc => ?_
  unfold heading Cursor.peek
  cases hrest : c.rest with
  | nil => exact .error fun {h rest} hword => by simp [hrest] at hword
  | cons letter others =>
    simp only [List.head?_cons, Option.bind_some]
    split
    · next h hletter =>
      have hsame : letter = h.letter := Heading.ofLetter?_eq_some_iff.mp hletter
      have hsplit : c.rest = [letter] ++ others := hrest
      refine Answers.advance hc hsplit (congrArg (· :: others) hsame) ?_
      intro h' rest hword
      have hsame' := Heading.ofLetter?_eq_some_iff.mpr (List.cons.inj hword).1
      rw [hletter, Option.some.injEq] at hsame'
      exact ⟨hsame'.symm, (List.cons.inj hword).2.symm⟩
    · next hletter =>
      refine .error fun {h rest} hword => ?_
      rw [hrest] at hword
      rw [Heading.ofLetter?_eq_some_iff.mpr (List.cons.inj hword).1] at hletter
      cases hletter

/-- Nothing is read in front of a digit. -/
theorem reads_aheadDigit (expected : String) :
    Reads (aheadDigit expected)
      (fun text _ rest => rest = text ∧ ¬Stops Char.isDigit text) := by
  refine .of_answers (fun h => h.1 ▸ List.suffix_refl _) fun {c} hc => ?_
  have hdigit : c.atDigit = true ↔ ¬Stops Char.isDigit c.rest := by
    unfold Cursor.atDigit Cursor.peek
    cases c.rest with
    | nil => simp [stops_nil]
    | cons letter others => simp [stops_cons]
  unfold aheadDigit
  split
  · next h => exact .ok hc.leads_self ⟨rfl, hdigit.mp h⟩ fun hphrase => ⟨rfl, hphrase.1⟩
  · next h => exact .error fun hphrase => h (hdigit.mpr hphrase.2)

/-! ### Longest runs -/

/-- A rule that takes the longest run of a class reads the runs that it has a value for. -/
theorem reads_run {r : Rule α} (p : Char → Bool) (value : List Char → Option α)
    (hr : ∀ {c : Cursor}, c.Inside → ∀ a d, r c = .ok a d ↔
      value (c.rest.takeWhile p) = some a ∧ d = c.advance (c.rest.takeWhile p).length) :
    Reads r (fun text a rest => ∃ run, text = run ++ rest ∧ (∀ c ∈ run, p c = true) ∧
      Stops p rest ∧ value run = some a) := by
  refine .of_answers ?_ fun {c} hc => ?_
  · rintro text a rest ⟨run, rfl, -⟩
    exact List.suffix_append run rest
  · have hsplit : c.rest = c.rest.takeWhile p ++ c.rest.dropWhile p :=
      List.takeWhile_append_dropWhile.symm
    cases hanswer : r c with
    | ok a d =>
      obtain ⟨hvalue, rfl⟩ := (hr hc a d).mp hanswer
      have hrun : ∀ d ∈ c.rest.takeWhile p, p d = true := List.all_eq_true.mp List.all_takeWhile
      refine .advance hc hsplit ⟨_, rfl, hrun, stops_dropWhile p _, hvalue⟩ ?_
      -- A run that ends is the longest one, so there is no second way to split it off.
      rintro b rest ⟨run, hother, hrun', hstops, hvalue'⟩
      rw [← hsplit] at hother
      have hsame : c.rest.takeWhile p = run := by rw [hother, takeWhile_run hrun' hstops]
      rw [hsame, hvalue', Option.some.injEq] at hvalue
      rw [hsplit, hsame] at hother
      exact ⟨hvalue, (List.append_cancel_left hother).symm⟩
    | error e d =>
      refine .error ?_
      rintro a rest ⟨run, hother, hrun, hstops, hvalue⟩
      rw [← takeWhile_run hrun hstops, ← hother] at hvalue
      rw [(hr hc a _).mpr ⟨hvalue, rfl⟩] at hanswer
      cases hanswer

/-- All spaces are read, and there is at least one. -/
theorem reads_spaces (expected : String) :
    Reads (spaces expected) (fun text _ rest => Spaces text rest ∧ Stops (· == ' ') rest) := by
  refine (reads_run (· == ' ') (fun run => if run.isEmpty then none else some ())
    fun {c} _ u d => ?_).congr fun {text u rest} => ?_
  · unfold spaces
    cases hrun : (c.rest.takeWhile (· == ' ')).isEmpty <;> simp [hrun, eq_comm]
  · constructor
    · intro h
      obtain ⟨run, rfl, hrun, hstops, hvalue⟩ := h
      refine ⟨⟨run.length - 1, ?_⟩, hstops⟩
      have hreplicate : run = List.replicate run.length ' ' :=
        List.eq_replicate_iff.mpr ⟨rfl, fun c hc => beq_iff_eq.mp (hrun c hc)⟩
      cases run with
      | nil => cases hvalue
      | cons c cs =>
        rw [List.length_cons, Nat.add_sub_cancel]
        exact congrArg (· ++ rest) hreplicate
    · rintro ⟨⟨n, rfl⟩, hstops⟩
      refine ⟨List.replicate (n + 1) ' ', rfl, fun c hc => ?_, hstops, rfl⟩
      exact beq_iff_eq.mpr (List.eq_of_mem_replicate hc)

/-- All blanks are read. -/
theorem reads_skipBlanks :
    Reads skipBlanks (fun text _ rest => Blanks text rest ∧ Stops isBlank rest) := by
  refine (reads_run isBlank (fun _ => some ()) fun {c} _ u d => ?_).congr
    fun {text u rest} => ?_
  · simp [skipBlanks, eq_comm]
  · constructor
    · intro h
      obtain ⟨run, rfl, hrun, hstops, -⟩ := h
      exact ⟨⟨run, hrun, rfl⟩, hstops⟩
    · intro h
      obtain ⟨⟨run, hrun, rfl⟩, hstops⟩ := h
      exact ⟨run, rfl, hrun, hstops, rfl⟩

/-- Inside, no run of digits goes on from the end of the text to its beginning. -/
theorem written_eq {c : Cursor} (hc : c.Inside) (run : List Char) : written c run = run :=
  if_pos hc.nonneg

/-- The longest run of digits is read when its value fits. -/
theorem reads_number (expected : String) : Reads (number expected) Number := by
  refine (reads_run Char.isDigit
    (fun run => if run.isEmpty then none else Text.numeralValue? run)
    fun {c} hc n d => ?_).congr fun {text n rest} => ?_
  · unfold number
    simp only [written_eq hc]
    split
    · simp
    · split <;> simp [*, eq_comm]
  · constructor
    · intro h
      obtain ⟨run, rfl, hrun, hstops, hvalue⟩ := h
      have hne : run ≠ [] := by
        rintro rfl
        cases hvalue
      rw [if_neg (by simpa using hne), numeralValue?_eq_some_iff hrun] at hvalue
      obtain ⟨rfl, hle⟩ := hvalue
      exact .run hne hrun hstops hle
    · intro h
      obtain ⟨hne, hdigits, hstops, hle⟩ := h
      refine ⟨_, rfl, hdigits, hstops, ?_⟩
      rw [if_neg (by simpa using hne), numeralValue?_eq_some_iff hdigits]
      exact ⟨rfl, hle⟩

/-! ### Line ends -/

/-- A line end, or none where none is. -/
inductive OptionalLineEnd : Phrase Bool
  | ends {text rest : List Char} (lineEnd : LineEnd text rest) : OptionalLineEnd text true rest
  | none {text : List Char} (noEnd : ∀ rest, ¬LineEnd text rest) :
      OptionalLineEnd text false text

/-- What a line end leaves is settled. -/
theorem OptionalLineEnd.unique {text rest rest' : List Char} {b : Bool}
    (h : OptionalLineEnd text b rest') (hend : LineEnd text rest) : b = true ∧ rest' = rest := by
  cases h with
  | ends lineEnd => cases lineEnd <;> cases hend <;> exact ⟨rfl, rfl⟩
  | none noEnd => exact absurd hend (noEnd rest)

/-- A line end is read if there is one. -/
theorem reads_optionalEndOfLine : Reads optionalEndOfLine OptionalLineEnd := by
  refine .of_answers ?_ fun {c} hc => ?_
  · rintro text b rest (⟨_ | _⟩ | _)
    · exact List.suffix_cons _ _
    · exact (List.suffix_cons _ _).trans (List.suffix_cons _ _)
    · exact List.suffix_refl _
  · unfold optionalEndOfLine
    simp only [hc.startsWith_iff]
    split
    · next hpair =>
      obtain ⟨rest, hrest⟩ := hpair
      exact .advance hc hrest.symm (.ends .pair) fun h => h.unique .pair
    · next hpair =>
      split
      · next hfeed =>
        obtain ⟨rest, hrest⟩ := hfeed
        exact .advance hc hrest.symm (.ends .lineFeed) fun h => h.unique .lineFeed
      · next hfeed =>
        have hnone : ∀ rest, ¬LineEnd c.rest rest := by
          intro rest h
          generalize c.rest = text at h hpair hfeed
          cases h with
          | lineFeed => exact hfeed ⟨rest, rfl⟩
          | pair => exact hpair ⟨rest, rfl⟩
        refine .ok hc.leads_self (.none hnone) fun {b rest} h => ?_
        cases h with
        | ends lineEnd => exact absurd lineEnd (hnone rest)
        | none _ => exact ⟨rfl, rfl⟩

/-- A line end is read. -/
theorem reads_endOfLine (expected : String) :
    Reads (endOfLine expected) (fun text _ rest => LineEnd text rest) where
  isSuffix h := reads_optionalEndOfLine.isSuffix (.ends h)
  ok_iff {c d u} hc := by
    have hends : OptionalLineEnd c.rest true d.rest ↔ LineEnd c.rest d.rest :=
      ⟨fun h => by cases h; assumption, .ends⟩
    rw [← hends, ← reads_optionalEndOfLine.ok_iff hc]
    unfold endOfLine
    split <;> simp [*]

/-! ### Command letters -/

/-- The letters of commands. -/
def isCommandLetter (c : Char) : Bool :=
  (Command.ofLetter? c).isSome

/-- What is read as commands is followed by no other command letter. -/
theorem stops_readAll (text : List Char) :
    ∃ rest, text = Command.spell (Command.readAll text) ++ rest ∧ Stops isCommandLetter rest := by
  induction text with
  | nil => exact ⟨[], rfl, stops_nil _⟩
  | cons c text ih =>
    unfold Command.readAll
    split
    · next k hk =>
      obtain ⟨rest, hrest, hstops⟩ := ih
      refine ⟨rest, ?_, hstops⟩
      rw [Command.ofLetter?_eq_some_iff] at hk
      rw [hk]
      exact congrArg (k.letter :: ·) hrest
    · next hnone => exact ⟨c :: text, rfl, stops_cons.mpr (by simp [isCommandLetter, hnone])⟩

/-- Letters of commands are read up to the first other character. -/
theorem readAll_spell_append {rest : List Char} (ks : List Command)
    (h : Stops isCommandLetter rest) : Command.readAll (Command.spell ks ++ rest) = ks := by
  induction ks with
  | nil =>
    cases rest with
    | nil => rfl
    | cons c rest =>
      have hnone : Command.ofLetter? c = none := by
        simpa [isCommandLetter] using stops_cons.mp h
      simp [Command.spell, Command.readAll, hnone]
  | cons k ks ih =>
    have hk : Command.ofLetter? k.letter = some k := Command.ofLetter?_eq_some_iff.mpr rfl
    show Command.readAll (k.letter :: (Command.spell ks ++ rest)) = k :: ks
    rw [Command.readAll, hk]
    exact congrArg (k :: ·) ih

/-- All command letters are read, and there is at least one. -/
theorem reads_commands (expected : String) :
    Reads (commands expected) (fun text ks rest =>
      (text = Command.spell ks ++ rest ∧ Stops isCommandLetter rest) ∧ ks ≠ []) := by
  refine .of_answers ?_ fun {c} hc => ?_
  · rintro text ks rest ⟨⟨rfl, -⟩, -⟩
    exact List.suffix_append _ _
  · have hread : ∀ {ks rest}, c.rest = Command.spell ks ++ rest → Stops isCommandLetter rest →
        Command.readAll c.rest = ks := by
      intro ks rest hsplit hstops
      rw [hsplit, readAll_spell_append ks hstops]
    unfold commands
    simp only [List.isEmpty_iff]
    split
    · next hnil =>
      refine .error ?_
      rintro ks rest ⟨⟨hsplit, hstops⟩, hne⟩
      exact hne ((hread hsplit hstops).symm.trans hnil)
    · next hne =>
      obtain ⟨rest, hsplit, hstops⟩ := stops_readAll c.rest
      have hlen : (Command.readAll c.rest).length
          = (Command.spell (Command.readAll c.rest)).length := by
        rw [Command.spell, List.length_map]
      rw [hlen]
      refine .advance hc hsplit ⟨⟨rfl, hstops⟩, hne⟩ ?_
      rintro ks rest' ⟨⟨hother, hstops'⟩, -⟩
      rw [← hsplit] at hother
      have hsame := hread hother hstops'
      rw [hsplit, hsame] at hother
      exact ⟨hsame.symm, (List.append_cancel_left hother).symm⟩

end GridWalk.Rule
