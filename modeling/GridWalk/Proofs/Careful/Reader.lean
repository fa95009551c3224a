import GridWalk.Proofs.Acceptance

/-!
# `GridWalk.Proofs.Careful.Reader`: reading with every way to fail

The rules of `GridWalk.Scan.Rule` only fail with parse errors. Here the same grammar is read in
small steps that could fail in other ways as well: a look in front of the text, a letter that
stands for nothing, digits that are no number, a loop that makes no progress. `Halt` lists these
ways. None of them is ever taken: inside its text, each careful rule answers as the plain one.

* `Careful.Rule` and `Careful.document`: the careful reader.
* `Agrees`: a careful rule and a plain one give the same answers.
* `agrees_document`: the two readers agree.
-/

set_option autoImplicit false

namespace GridWalk

open GridWalk.Text (isBlank maxNumber significant)

/-- Why careful work stops before its end. -/
inductive Halt
  /-- The text is no document. Among all reasons, this is the one that a run expects. -/
  | refused (e : ParseError)
  /-- A value is asked for that does not exist. -/
  | fault (f : Fault)
  /-- A number is asked for that is not written in at least one and at most ten digits. -/
  | noNumeral (text : List Char)
  /-- A heading is asked for by a number that no heading has. -/
  | noHeading (value : Int)
  /-- A table is asked for an entry that it lacks. -/
  | noEntry (letter : Char)
  /-- A row is too long to be counted. -/
  | tooLong (length : Nat)
  /-- A round of a loop reads nothing, so the loop would never end. -/
  | idle

namespace Careful

/-- A reader of texts that may fail in any way. -/
abbrev Rule (α : Type) : Type :=
  EStateM Halt Cursor α

/-! ### Primitives -/

/-- Looks at the text under the cursor. -/
def look {α : Type} (view : Cursor → α) : Rule α := fun c =>
  match c.look view with
  | .ok a => .ok a c
  | .error f => .error (.fault f) c

/-- Reports what is missing under the cursor. -/
def refuse {α : Type} (expected : String) : Rule α := do
  let e ← look fun c => c.error expected none
  throw (.refused e)

/-- Asks for a value that may not exist. -/
def demand {m : Type → Type} [Monad m] [MonadExceptOf Halt m] {α : Type} : Except Fault α → m α
  | .ok a => pure a
  | .error f => throw (.fault f)

/-- The value of a run of digits that is neither empty nor longer than ten digits. -/
def numeral (run : List Char) : Rule Nat :=
  if !run.isEmpty ∧ run.all Char.isDigit ∧ run.length ≤ 10 then
    pure (Nat.ofDigitChars 10 run 0)
  else throw (.noNumeral run)

/-- A look inside shows a character only where one is left. -/
theorem remaining_pos_of_look {c : Cursor} {d : Char} (h : c.look Cursor.peek = .ok (some d)) :
    0 < c.remaining := by
  have hrest := c.length_rest_le
  unfold Cursor.look at h
  split at h
  · cases h
  · rw [Except.ok.injEq, Cursor.peek] at h
    cases hc : c.rest with
    | nil => simp [hc] at h
    | cons e rest =>
      rw [hc, List.length_cons] at hrest
      omega

/-- Reads characters of a class, one after the other. -/
def eat (p : Char → Bool) (c : Cursor) : EStateM.Result Halt Cursor (List Char) :=
  match _h : c.look Cursor.peek with
  | .error f => .error (.fault f) c
  | .ok none => .ok [] c
  | .ok (some d) =>
    if p d then
      match eat p (c.advance 1) with
      | .error x e => .error x e
      | .ok run e => .ok (d :: run) e
    else .ok [] c
termination_by c.remaining
decreasing_by
  have := remaining_pos_of_look _h
  rw [Cursor.remaining_advance]
  omega

/-- Reads exactly `word`. -/
def literal (word : List Char) (expected : String) : Rule Unit := do
  let c ← get
  if c.startsWith word then set (c.advance word.length) else refuse expected

/-- Reads one or more spaces. -/
def spaces (expected : String) : Rule Unit := do
  let run ← eat (· == ' ')
  if run.isEmpty then refuse expected

/-- Reads all blanks, of which there may be none. -/
def skipBlanks : Rule Unit := do
  let _ ← eat isBlank

/-- The digits that count of a run. Of zeros alone, one counts. -/
def counted (run : List Char) : List Char :=
  if (significant run).isEmpty then ['0'] else significant run

/-- Reads a number. Its value is asked for only when the digits that count are few enough. -/
def number (expected : String) : Rule Nat := do
  let c ← get
  let run ← eat Char.isDigit
  if run.isEmpty then refuse expected
  else if 10 < (counted run).length then throw (.refused (Rule.oversized c expected run))
  else
    let value ← numeral (counted run)
    if maxNumber < value then throw (.refused (Rule.oversized c expected run))
    else numeral (counted run)

/-- Reads a line end, if there is one, and says whether there was. -/
def optionalEndOfLine : Rule Bool := do
  let c ← get
  if c.startsWith ['\r', '\n'] then
    set (c.advance 2)
    return true
  if c.startsWith ['\n'] then
    set (c.advance 1)
    return true
  return false

/-- Reads a line end. -/
def endOfLine (expected : String) : Rule Unit := do
  if ← optionalEndOfLine then return
  refuse expected

/-- Reads one of the four letters and asks for its heading. -/
def heading (expected : String) : Rule Heading := do
  match ← look Cursor.peek with
  | none => refuse expected
  | some d =>
    if ['N', 'E', 'S', 'W'].contains d then
      modify fun c => c.advance 1
      demand (Heading.read d.toString)
    else refuse expected

/-- Reads as many of the three letters as there are and asks for their commands. -/
def commands (expected : String) : Rule (List Command) := do
  let run ← eat ['L', 'R', 'F'].contains
  let ks ← run.mapM fun d => demand (Command.read d.toString)
  if ks.isEmpty then refuse expected else return ks

/-- Reads nothing and requires that a number starts here. -/
def aheadDigit (expected : String) : Rule Unit := do
  if ← look Cursor.atDigit then return
  refuse expected

/-- Repeats a rule as long as the cursor asks for another round. A round that reads nothing ends
the repetition as a failure, since it would never end otherwise. -/
def many {α : Type} (again : Cursor → Bool) (r : Rule α) (c : Cursor) :
    EStateM.Result Halt Cursor (List α) :=
  if again c then
    match r c with
    | .error x d => .error x d
    | .ok a d =>
      if d.remaining < c.remaining then
        match many again r d with
        | .error x e => .error x e
        | .ok as e => .ok (a :: as) e
      else .error .idle d
  else .ok [] c
termination_by c.remaining

/-! ### The grammar -/

/-- Reads the grid line. -/
def gridLine : Rule Grid := do
  literal Rule.gridWord "GRID keyword"
  spaces "at least one space after GRID keyword"
  let width ← number "grid width"
  literal ['x'] "'x' between grid width and height"
  let height ← number "grid height"
  let _ ← optionalEndOfLine
  return ⟨width, height⟩

/-- Reads an obstacle line. -/
def obstacleLine : Rule Cell := do
  literal Rule.obstacleWord "OBSTACLE keyword"
  spaces "at least one space after OBSTACLE keyword"
  let x ← number "obstacle X coordinate"
  spaces "at least one space after obstacle X coordinate"
  let y ← number "obstacle Y coordinate"
  let _ ← optionalEndOfLine
  return ⟨x, y⟩

/-- Reads a pose. -/
def pose (which : String) : Rule Pose := do
  let x ← number (which ++ " robot X coordinate")
  spaces ("at least one space after " ++ which ++ " robot X coordinate")
  let y ← number (which ++ " robot Y coordinate")
  spaces ("at least one space after " ++ which ++ " robot Y coordinate")
  let h ← heading (which ++ " robot direction, one of [N, E, S, W]")
  return ⟨⟨x, y⟩, h⟩

/-- Reads the three lines of a journey. -/
def journey : Rule Journey := do
  let start ← pose "initial"
  endOfLine "newline after initial state"
  let ks ← commands "robot commands, one or more of [L, R, F]"
  endOfLine "newline after commands"
  let goal ← pose "final"
  let _ ← optionalEndOfLine
  return ⟨start, ks, goal⟩

/-- Reads an obstacle line and the blanks after it. -/
def obstacleEntry : Rule Cell := do
  let cell ← obstacleLine
  skipBlanks
  return cell

/-- Reads a journey and the blanks after it. -/
def journeyEntry (expected : String) : Rule Journey := do
  aheadDigit expected
  let j ← journey
  skipBlanks
  return j

/-- Reads the journeys of a document. -/
def journeySection : Rule (List Journey) := do
  if (← get).atEnd then return []
  let first ← journeyEntry "OBSTACLE line, robot journey or end of input"
  let others ← many (fun c => !c.atEnd) (journeyEntry "robot journey or end of input")
  return first :: others

/-- Reads a whole document. -/
def document : Rule Document := do
  let grid ← gridLine
  skipBlanks
  let obstacles ← many (fun c => c.startsWith Rule.obstacleWord) obstacleEntry
  let journeys ← journeySection
  return ⟨grid, obstacles, journeys⟩

/-! ### Agreement -/

variable {α β : Type} {c d : Cursor}

/-- The answer of a plain rule as the answer of a careful one. -/
def answer : EStateM.Result ParseError Cursor α → EStateM.Result Halt Cursor α
  | .ok a d => .ok a d
  | .error e d => .error (.refused e) d

/-- Inside its text, the careful rule answers as the plain one, which stays inside. -/
structure Agrees (r : Rule α) (s : GridWalk.Rule α) : Prop where
  run_eq {c : Cursor} : c.Inside → r c = answer (s c)
  inside {c d : Cursor} {a : α} : c.Inside → s c = .ok a d → d.Inside

/-- A plain rule that reads phrases stays inside. -/
theorem Agrees.of_reads {r : Rule α} {s : GridWalk.Rule α} {p : Grammar.Phrase α}
    (hreads : Rule.Reads s p) (hr : ∀ {c : Cursor}, c.Inside → r c = answer (s c)) :
    Agrees r s where
  run_eq := hr
  inside hc h := ((hreads.ok_iff hc).mp h).2.inside

/-- A sequence goes on after a success of its first part. -/
theorem bind_of_ok {r : Rule α} {f : α → Rule β} {a : α} (h : r c = .ok a d) :
    (r >>= f) c = f a d := by
  show EStateM.bind r f c = f a d
  rw [EStateM.bind, h]

/-- A sequence fails with its first part. -/
theorem bind_of_error {r : Rule α} {f : α → Rule β} {x : Halt} (h : r c = .error x d) :
    (r >>= f) c = .error x d := by
  show EStateM.bind r f c = .error x d
  rw [EStateM.bind, h]

/-- Nothing is read on both sides. -/
theorem agrees_pure (a : α) : Agrees (pure a) (pure a) :=
  .of_reads (Rule.reads_pure a) fun _ => rfl

/-- Rules in a row agree when their parts do. -/
theorem Agrees.bind {r : Rule α} {s : GridWalk.Rule α} {f : α → Rule β}
    {g : α → GridWalk.Rule β} (hr : Agrees r s) (hf : ∀ a, Agrees (f a) (g a)) :
    Agrees (r >>= f) (s >>= g) where
  run_eq {c} hc := by
    have hfirst := hr.run_eq hc
    show _ = answer (EStateM.bind s g c)
    unfold EStateM.bind
    cases hs : s c with
    | ok a d =>
      rw [hs] at hfirst
      rw [bind_of_ok hfirst, (hf a).run_eq (hr.inside hc hs)]
    | error e d =>
      rw [hs] at hfirst
      exact bind_of_error hfirst
  inside hc h := by
    obtain ⟨a, m, hfirst, hsecond⟩ := Rule.bind_eq_ok_iff.mp h
    exact (hf a).inside (hr.inside hc hfirst) hsecond

/-- Rules of choice agree when both of them do. -/
theorem Agrees.ite {stop : Cursor → Bool} {r r' : Rule α} {s s' : GridWalk.Rule α}
    (hr : Agrees r s) (hr' : Agrees r' s') :
    Agrees (get >>= fun c => if stop c then r else r') (get >>= fun c => if stop c then s else s')
    where
  run_eq {c} hc := by
    show (if stop c then r else r') c = answer ((if stop c then s else s') c)
    split
    · exact hr.run_eq hc
    · exact hr'.run_eq hc
  inside {c d a} hc h := by
    change (if stop c then s else s') c = .ok a d at h
    split at h
    · exact hr.inside hc h
    · exact hr'.inside hc h

/-- One round of a plain repetition, and then the others. -/
theorem many_step {again : Cursor → Bool} {s : GridWalk.Rule α} {eager : s.Eager} :
    Rule.many again s eager c =
      if again c then
        match s c with
        | .error e d => .error e d
        | .ok a d =>
          match Rule.many again s eager d with
          | .error e d' => .error e d'
          | .ok as d' => .ok (a :: as) d'
      else .ok [] c := by
  rw [Rule.many]
  split
  · split
    · next h => rw [h]
    · next a d h =>
      cases hothers : Rule.many again s eager d <;> simp only [h, hothers]
  · rfl

/-- Repetitions agree when their rounds do. Each plain round reads something, so the careful
repetition is never idle. -/
theorem Agrees.many {again : Cursor → Bool} {r : Rule α} {s : GridWalk.Rule α}
    {p : Grammar.Phrase (List α)} (hr : Agrees r s) (eager : s.Eager)
    (hreads : Rule.Reads (Rule.many again s eager) p) :
    Agrees (many again r) (Rule.many again s eager) := by
  refine .of_reads hreads fun {c} hc => ?_
  -- Each round leaves less to read, which is what the induction is on.
  induction hsize : c.remaining using Nat.strongRecOn generalizing c with
  | ind size ih =>
    subst hsize
    rw [Careful.many, many_step, hr.run_eq hc]
    cases again c with
    | false => rfl
    | true =>
      cases hs : s c with
      | error e d => rfl
      | ok a d =>
        have hprogress := eager hs
        have hothers := ih d.remaining hprogress (hr.inside hc hs) rfl
        simp only [answer, if_true, if_pos hprogress]
        rw [hothers]
        cases Rule.many again s eager d <;> rfl

/-! ### Primitives that agree -/

/-- Inside, a look shows what is there. -/
theorem look_eq (hc : c.Inside) (view : Cursor → α) : look view c = .ok (view c) c := by
  simp [look, Cursor.look, hc.isOutside_eq_false]

/-- Inside, what is missing is reported as the cursor reports it. -/
theorem refuse_eq (hc : c.Inside) (expected : String) :
    (refuse expected : Rule α) c = .error (.refused (c.error expected none)) c :=
  bind_of_ok (look_eq hc _)

/-- One step of reading one by one. -/
theorem eat_step (hc : c.Inside) (p : Char → Bool) :
    eat p c = match c.rest with
      | [] => .ok [] c
      | d :: _ =>
        if p d then
          match eat p (c.advance 1) with
          | .error x e => .error x e
          | .ok run e => .ok (d :: run) e
        else .ok [] c := by
  have hlook : c.look Cursor.peek = .ok c.rest.head? := by
    simp [Cursor.look, hc.isOutside_eq_false, Cursor.peek]
  rw [eat]
  split
  · next h =>
    rw [hlook] at h
    cases h
  · next h =>
    rw [hlook, Except.ok.injEq, List.head?_eq_none_iff] at h
    rw [h]
  · next d h =>
    rw [hlook, Except.ok.injEq, List.head?_eq_some_iff] at h
    obtain ⟨rest, hrest⟩ := h
    rw [hrest]

/-- No step leads nowhere else. -/
theorem advance_zero (c : Cursor) : c.advance 0 = c :=
  Cursor.eq_of_pos_eq (Cursor.text_advance c 0) (by simp)

/-- Inside, reading one by one reads the longest run. -/
theorem eat_eq (hc : c.Inside) (p : Char → Bool) :
    eat p c = .ok (c.rest.takeWhile p) (c.advance (c.rest.takeWhile p).length) := by
  -- The induction is on what is left, which loses one character with each step.
  generalize htext : c.rest = text
  induction text generalizing c with
  | nil => rw [eat_step hc, htext, List.takeWhile_nil, List.length_nil, advance_zero]
  | cons d text ih =>
    rw [eat_step hc, htext, List.takeWhile_cons]
    dsimp only
    split
    · have hsplit : c.rest = [d] ++ text := htext
      have hrest : (c.advance 1).rest = text := hc.rest_advance_length hsplit
      have hinside : (c.advance 1).Inside := (hc.leads_advance hsplit).inside
      have hsteps : (c.advance 1).advance (text.takeWhile p).length
          = c.advance (d :: text.takeWhile p).length := by
        refine Cursor.eq_of_pos_eq (by simp) ?_
        simp only [Cursor.pos_advance, List.length_cons]
        omega
      rw [ih hinside hrest, hsteps]
    · rw [List.length_nil, advance_zero]

/-- Inside, nothing is read where no run starts. -/
theorem eat_of_isEmpty (hc : c.Inside) {p : Char → Bool}
    (h : (c.rest.takeWhile p).isEmpty = true) : eat p c = .ok [] c := by
  rw [List.isEmpty_iff] at h
  rw [eat_eq hc, h, List.length_nil, advance_zero]

/-- A word is read alike. -/
theorem agrees_literal (word : List Char) (expected : String) :
    Agrees (literal word expected) (Rule.literal word expected) := by
  refine .of_reads (Rule.reads_literal word expected) fun {c} hc => ?_
  show (if c.startsWith word then set (c.advance word.length) else refuse expected : Rule Unit) c
    = answer (Rule.literal word expected c)
  unfold Rule.literal
  split
  · rfl
  · exact refuse_eq hc expected

/-- Spaces are read alike. -/
theorem agrees_spaces (expected : String) :
    Agrees (spaces expected) (Rule.spaces expected) := by
  refine .of_reads (Rule.reads_spaces expected) fun {c} hc => ?_
  unfold spaces Rule.spaces
  dsimp only
  split
  · next hnil =>
    rw [bind_of_ok (eat_of_isEmpty hc hnil)]
    exact refuse_eq hc expected
  · next hsome =>
    rw [bind_of_ok (eat_eq hc _), if_neg hsome]
    rfl

/-- Blanks are read alike. -/
theorem agrees_skipBlanks : Agrees skipBlanks Rule.skipBlanks := by
  refine .of_reads Rule.reads_skipBlanks fun {c} hc => ?_
  exact bind_of_ok (eat_eq hc _)

/-- Line ends are read alike. -/
theorem agrees_optionalEndOfLine : Agrees optionalEndOfLine Rule.optionalEndOfLine := by
  refine .of_reads Rule.reads_optionalEndOfLine fun {c} hc => ?_
  show (if c.startsWith ['\r', '\n'] then _ else _ : Rule Bool) c = _
  unfold Rule.optionalEndOfLine
  split
  · rfl
  · show (if c.startsWith ['\n'] then _ else _ : Rule Bool) c = _
    split <;> rfl

/-- Line ends are required alike. -/
theorem agrees_endOfLine (expected : String) :
    Agrees (endOfLine expected) (Rule.endOfLine expected) := by
  refine .of_reads (Rule.reads_endOfLine expected) fun {c} hc => ?_
  have hoptional := agrees_optionalEndOfLine.run_eq hc
  unfold endOfLine Rule.endOfLine
  cases hplain : Rule.optionalEndOfLine c with
  | error e d =>
    rw [hplain] at hoptional
    exact bind_of_error hoptional
  | ok b d =>
    rw [hplain] at hoptional
    rw [bind_of_ok hoptional]
    cases b with
    | true => rfl
    | false => exact refuse_eq (agrees_optionalEndOfLine.inside hc hplain) expected

/-- A digit is required alike. -/
theorem agrees_aheadDigit (expected : String) :
    Agrees (aheadDigit expected) (Rule.aheadDigit expected) := by
  refine .of_reads (Rule.reads_aheadDigit expected) fun {c} hc => ?_
  unfold aheadDigit Rule.aheadDigit
  rw [bind_of_ok (look_eq hc _)]
  split
  · rfl
  · exact refuse_eq hc expected

/-- A list of letters says which letters stand for something if it has no others and misses
none. -/
theorem contains_letter {letters : List Char} {ofLetter? : Char → Option α}
    (hsome : ∀ d ∈ letters, (ofLetter? d).isSome = true)
    (hmem : ∀ {d a}, ofLetter? d = some a → d ∈ letters) (d : Char) :
    letters.contains d = (ofLetter? d).isSome := by
  rw [Bool.eq_iff_iff, List.contains_iff_mem]
  constructor
  · exact hsome d
  · intro h
    obtain ⟨a, ha⟩ := Option.isSome_iff_exists.mp h
    exact hmem ha

/-- The letters that are asked for their headings are those that have one. -/
theorem contains_headingLetter (d : Char) :
    ['N', 'E', 'S', 'W'].contains d = (Heading.ofLetter? d).isSome := by
  refine contains_letter (by simp [Heading.ofLetter?]) (fun {d h} hd => ?_) d
  rw [Heading.ofLetter?_eq_some_iff] at hd
  subst hd
  cases h <;> simp [Heading.letter]

/-- A heading is found by its letter. -/
theorem read_headingLetter (h : Heading) : Heading.read h.letter.toString = .ok h := by
  cases h <;> rfl

/-- A heading is read alike. -/
theorem agrees_heading (expected : String) :
    Agrees (heading expected) (Rule.heading expected) := by
  refine .of_reads (Rule.reads_heading expected) fun {c} hc => ?_
  unfold heading Rule.heading
  rw [bind_of_ok (look_eq hc _)]
  cases c.peek with
  | none => exact refuse_eq hc expected
  | some d =>
    dsimp only [Option.bind_some]
    rw [contains_headingLetter]
    cases hd : Heading.ofLetter? d with
    | none => exact refuse_eq hc expected
    | some h =>
      rw [Heading.ofLetter?_eq_some_iff] at hd
      subst hd
      rw [read_headingLetter]
      rfl

/-- The letters that are asked for their commands are those that have one. -/
theorem contains_commandLetter (d : Char) :
    ['L', 'R', 'F'].contains d = Rule.isCommandLetter d := by
  refine contains_letter (by simp [Command.ofLetter?]) (fun {d k} hd => ?_) d
  rw [Command.ofLetter?_eq_some_iff] at hd
  subst hd
  cases k <;> simp [Command.letter]

/-- A run of command letters spells the commands that are read. -/
theorem takeWhile_commandLetter (text : List Char) :
    text.takeWhile ['L', 'R', 'F'].contains = Command.spell (Command.readAll text) := by
  have hclass : (['L', 'R', 'F'].contains : Char → Bool) = Rule.isCommandLetter :=
    funext contains_commandLetter
  obtain ⟨rest, hsplit, hstops⟩ := Rule.stops_readAll text
  -- All letters of the spelling are in the class, and the one behind it is not.
  have hspell : ∀ c ∈ Command.spell (Command.readAll text), Rule.isCommandLetter c = true := by
    intro c hc
    obtain ⟨k, -, rfl⟩ := List.mem_map.mp hc
    cases k <;> decide
  have hlong := Grammar.takeWhile_run hspell hstops
  rw [← hsplit] at hlong
  rw [hclass, hlong]

/-- Commands are found by their letters. -/
theorem mapM_read_spell (ks : List Command) :
    (Command.spell ks).mapM (fun d => demand (Command.read d.toString)) = (pure ks : Rule _) := by
  have hread : ∀ k : Command, demand (Command.read k.letter.toString) = (pure k : Rule _) := by
    intro k
    cases k <;> rfl
  induction ks with
  | nil => rfl
  | cons k ks ih =>
    rw [Command.spell, List.map_cons, List.mapM_cons, hread, pure_bind]
    rw [Command.spell] at ih
    rw [ih, pure_bind]

/-- Commands are read alike. -/
theorem agrees_commands (expected : String) :
    Agrees (commands expected) (Rule.commands expected) := by
  refine .of_reads (Rule.reads_commands expected) fun {c} hc => ?_
  have heat : eat ['L', 'R', 'F'].contains c = .ok (Command.spell (Command.readAll c.rest))
      (c.advance (Command.readAll c.rest).length) := by
    rw [eat_eq hc, takeWhile_commandLetter, Command.spell, List.length_map]
  unfold commands Rule.commands
  rw [bind_of_ok heat]
  dsimp only
  rw [mapM_read_spell, pure_bind]
  split
  · next hnil =>
    rw [List.isEmpty_iff] at hnil
    rw [hnil, List.length_nil, advance_zero]
    exact refuse_eq hc expected
  · rfl

/-- The digits that count are digits, and there is one. -/
theorem counted_spec {run : List Char} (hrun : ∀ c ∈ run, c.isDigit = true) :
    counted run ≠ [] ∧ (∀ c ∈ counted run, c.isDigit = true) ∧
      Nat.ofDigitChars 10 (counted run) 0 = Nat.ofDigitChars 10 (significant run) 0 ∧
      (10 < (counted run).length ↔ 10 < (significant run).length) := by
  unfold counted
  split
  · next hnil =>
    rw [List.isEmpty_iff] at hnil
    rw [hnil]
    exact ⟨List.cons_ne_nil _ _, by simp, rfl, by simp⟩
  · next hsome =>
    rw [List.isEmpty_iff] at hsome
    refine ⟨hsome, fun c hc => hrun c ?_, rfl, Iff.rfl⟩
    exact (List.dropWhile_suffix (· == '0')).mem hc

/-- A run that is neither empty nor longer than ten digits has its value. -/
theorem numeral_eq {run : List Char} (hne : run ≠ []) (hrun : ∀ c ∈ run, c.isDigit = true)
    (hlen : run.length ≤ 10) : numeral run = pure (Nat.ofDigitChars 10 run 0) :=
  if_pos ⟨by simpa using hne, List.all_eq_true.mpr hrun, hlen⟩

/-- A number is read alike. -/
theorem agrees_number (expected : String) :
    Agrees (number expected) (Rule.number expected) := by
  refine .of_reads (Rule.reads_number expected) fun {c} hc => ?_
  have hrun : ∀ d ∈ c.rest.takeWhile Char.isDigit, d.isDigit = true :=
    List.all_eq_true.mp List.all_takeWhile
  obtain ⟨hne, hdigits, hvalue, hlen⟩ := counted_spec hrun
  have hget : (get : Rule Cursor) c = .ok c c := rfl
  unfold number Rule.number
  simp only [Rule.written_eq hc]
  rw [bind_of_ok hget]
  split
  · next hnil =>
    rw [bind_of_ok (eat_of_isEmpty hc hnil)]
    exact refuse_eq hc expected
  · next hsome =>
    rw [bind_of_ok (eat_eq hc _), if_neg hsome]
    unfold Text.numeralValue?
    dsimp only
    -- Too many digits are refused before their value is asked for.
    by_cases hlong : 10 < (significant (c.rest.takeWhile Char.isDigit)).length
    · rw [if_pos (hlen.mpr hlong), if_pos hlong]
      rfl
    · rw [if_neg (mt hlen.mp hlong), if_neg hlong,
        numeral_eq hne hdigits (Nat.le_of_not_lt (mt hlen.mp hlong)), pure_bind, hvalue]
      split <;> rfl

/-! ### The grammar -/

/-- A pose is read alike. -/
theorem agrees_pose (which : String) : Agrees (pose which) (Rule.pose which) :=
  (agrees_number _).bind fun _ =>
    (agrees_spaces _).bind fun _ =>
      (agrees_number _).bind fun _ =>
        (agrees_spaces _).bind fun _ =>
          (agrees_heading _).bind fun _ => agrees_pure _

/-- A grid line is read alike. -/
theorem agrees_gridLine : Agrees gridLine Rule.gridLine :=
  (agrees_literal _ _).bind fun _ =>
    (agrees_spaces _).bind fun _ =>
      (agrees_number _).bind fun _ =>
        (agrees_literal _ _).bind fun _ =>
          (agrees_number _).bind fun _ =>
            agrees_optionalEndOfLine.bind fun _ => agrees_pure _

/-- An obstacle line and the blanks after it are read alike. -/
theorem agrees_obstacleEntry : Agrees obstacleEntry Rule.obstacleEntry := by
  have hline : Agrees obstacleLine Rule.obstacleLine :=
    (agrees_literal _ _).bind fun _ =>
      (agrees_spaces _).bind fun _ =>
        (agrees_number _).bind fun _ =>
          (agrees_spaces _).bind fun _ =>
            (agrees_number _).bind fun _ =>
              agrees_optionalEndOfLine.bind fun _ => agrees_pure _
  exact hline.bind fun _ => agrees_skipBlanks.bind fun _ => agrees_pure _

/-- A journey and the blanks after it are read alike. -/
theorem agrees_journeyEntry (expected : String) :
    Agrees (journeyEntry expected) (Rule.journeyEntry expected) := by
  have hjourney : Agrees journey Rule.journey :=
    (agrees_pose _).bind fun _ =>
      (agrees_endOfLine _).bind fun _ =>
        (agrees_commands _).bind fun _ =>
          (agrees_endOfLine _).bind fun _ =>
            (agrees_pose _).bind fun _ =>
              agrees_optionalEndOfLine.bind fun _ => agrees_pure _
  exact (agrees_aheadDigit expected).bind fun _ =>
    hjourney.bind fun _ => agrees_skipBlanks.bind fun _ => agrees_pure _

/-- The journeys of a document are read alike. -/
theorem agrees_journeySection : Agrees journeySection Rule.journeySection := by
  have hfurther : Agrees (many _ _) Rule.furtherJourneys :=
    (agrees_journeyEntry _).many (Rule.eager_journeyEntry _) Rule.reads_furtherJourneys
  refine Agrees.ite (agrees_pure []) ?_
  exact (agrees_journeyEntry _).bind fun first => hfurther.bind fun others => agrees_pure _

/-- A document is read alike. -/
theorem agrees_document : Agrees document Rule.document := by
  have hobstacles : Agrees (many _ _) Rule.obstacleSection :=
    agrees_obstacleEntry.many Rule.eager_obstacleEntry Rule.reads_obstacleSection
  exact agrees_gridLine.bind fun _ => agrees_skipBlanks.bind fun _ =>
    hobstacles.bind fun _ => agrees_journeySection.bind fun _ => agrees_pure _

end Careful
end GridWalk
