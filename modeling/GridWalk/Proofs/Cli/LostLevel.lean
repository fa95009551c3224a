import GridWalk.Cli.Options

/-!
# `GridWalk.Proofs.Cli.LostLevel`: how the level gets lost

The mark that ends the options is no value. Joined to an option it is not refused: it takes away
the value that the option has. A plot is then not asked for, but without a level there is no
session. Nothing else takes the level away. A value that is no level is refused. An option that
waits for its value never gets the mark: in front of the mark no plain text is the mark, and behind
it no option waits.

* `Word.JoinsMark`: the mark, joined to the option for the level.
* `Settings.level_of_take`: one word keeps the level, unless it is such a word.
* `Settings.level_of_take_all`: so do all of them.
* `Options.joinsMark_of_fault`: arguments of the right use ask for a run otherwise.
-/

set_option autoImplicit false

namespace GridWalk.Cli

/-- Steps succeed when the first one does and then the others do. -/
theorem foldlM_cons_eq_ok_iff {ε σ α : Type} {f : σ → α → Except ε σ} {s s' : σ} {x : α}
    {xs : List α} :
    (x :: xs).foldlM f s = .ok s' ↔ ∃ t, f s x = .ok t ∧ xs.foldlM f t = .ok s' := by
  rw [List.foldlM_cons]
  cases f s x with
  | error e => simp [bind, Except.bind]
  | ok t => simp [bind, Except.bind]

/-- The word joins the mark that ends the options to the option for the level. -/
def Word.JoinsMark : Word → Prop
  | option .logLevel (.value text) => text = endMark
  | option .logLevel (.letters text) => String.ofList text = endMark
  | _ => False

namespace Word

/-- The candidates for an argument are options. -/
theorem exists_option_of_candidates {argument : List Char} {entry : String × Word}
    (h : entry ∈ candidates argument) : ∃ switch joined, entry.2 = option switch joined := by
  unfold candidates at h
  split at h
  · obtain ⟨e, -, rfl⟩ := List.mem_map.mp h
    exact ⟨_, _, rfl⟩
  · obtain ⟨e, -, rfl⟩ := List.mem_map.mp h
    exact ⟨_, _, rfl⟩
  · cases h

/-- What an argument names is an option. -/
theorem exists_option_of_named? {argument : String} {word : Word}
    (h : named? argument = some word) : ∃ switch joined, word = option switch joined := by
  unfold named? at h
  split at h
  · cases h
    exact ⟨_, _, rfl⟩
  · split at h
    · cases h
    · obtain ⟨switch, -, rfl⟩ := Option.map_eq_some_iff.mp h
      exact ⟨_, _, rfl⟩

/-- An argument that is sorted as plain text is that text. -/
theorem eq_of_ofArgument_plain {argument text : String}
    (h : ofArgument argument = .ok (plain text)) : argument = text := by
  unfold ofArgument at h
  dsimp only at h
  split at h
  · cases h
    rfl
  · split at h
    · next word hnamed =>
      obtain ⟨_, _, rfl⟩ := exists_option_of_named? hnamed
      cases h
    · split at h
      · next name word hcandidates =>
        obtain ⟨_, _, hword⟩ := exists_option_of_candidates
          (hcandidates ▸ List.mem_singleton.mpr rfl : (name, word) ∈ candidates argument.toList)
        cases h
        cases hword
      · split at h <;> cases h
        rfl
      · cases h

end Word

namespace Settings

variable {s s' : Settings} {switch : Switch}

/-- A value replaces the level or leaves it, unless it is the mark for the level. -/
theorem level_of_assign {value : String} (h : s.assign switch value = .ok s')
    (hlevel : s.level.isSome = true) :
    s'.level.isSome = true ∨ (switch = .logLevel ∧ value = endMark) := by
  unfold assign at h
  split at h
  · next hmark =>
    cases switch with
    | logLevel => exact .inr ⟨rfl, hmark⟩
    | _ =>
      cases h
      exact .inl hlevel
  · split at h
    · cases h
      exact .inl hlevel
    · split at h
      · cases h
        exact .inl rfl
      · cases h
    · cases h
      exact .inl hlevel

/-- An option without a value leaves the level. -/
theorem level_of_turnOn (h : s.turnOn switch = .ok s') : s'.level = s.level := by
  cases switch <;> cases h <;> rfl

/-- Options without values leave the level. -/
theorem level_of_turnOn_all {switches : List Switch} (h : switches.foldlM turnOn s = .ok s') :
    s'.level = s.level := by
  induction switches generalizing s with
  | nil =>
    cases h
    rfl
  | cons switch switches ih =>
    obtain ⟨t, hstep, hothers⟩ := foldlM_cons_eq_ok_iff.mp h
    exact (ih hothers).trans (level_of_turnOn hstep)

/-- An option keeps the level that is there, unless it joins the mark to the level. -/
theorem level_of_takeOption {joined : Joined} (h : s.takeOption switch joined = .ok s')
    (hlevel : s.level.isSome = true) :
    s'.level.isSome = true ∨ (Word.option switch joined).JoinsMark := by
  unfold takeOption at h
  split at h
  · cases h
    exact .inl hlevel
  · rcases level_of_assign h hlevel with hkept | ⟨rfl, hmark⟩
    · exact .inl hkept
    · exact .inr hmark
  · rcases level_of_assign h hlevel with hkept | ⟨rfl, hmark⟩
    · exact .inl hkept
    · exact .inr hmark
  · rw [level_of_turnOn h]
    exact .inl hlevel
  · cases h
  · next text _ =>
    cases hcluster : cluster switch text with
    | error e =>
      rw [hcluster] at h
      cases h
    | ok switches =>
      rw [hcluster] at h
      rw [level_of_turnOn_all h]
      exact .inl hlevel

/-- A word keeps the level that is there, unless the mark becomes its value. -/
theorem level_of_take {word : Word} (h : s.take word = .ok s') (hlevel : s.level.isSome = true) :
    s'.level.isSome = true ∨ word.JoinsMark ∨
      (s.waiting = some .logLevel ∧ word = .plain endMark) := by
  unfold take at h
  split at h
  · next switch text hwaiting =>
    rcases level_of_assign h hlevel with hkept | ⟨rfl, rfl⟩
    · exact .inl hkept
    · exact .inr (.inr ⟨hwaiting, rfl⟩)
  · cases h
  · split at h <;> cases h <;> exact .inl hlevel
  · split at h <;> cases h <;> exact .inl hlevel
  · cases h
    exact .inl hlevel
  · rcases level_of_takeOption h hlevel with hkept | hmark
    · exact .inl hkept
    · exact .inr (.inl hmark)

/-- A plain text that no option waits for leaves the level, and no option waits afterwards. -/
theorem level_of_take_plain {text : String} (h : s.take (.plain text) = .ok s')
    (hwaiting : s.waiting = none) : s'.level = s.level ∧ s'.waiting = none := by
  simp only [take, hwaiting] at h
  split at h <;> cases h <;> exact ⟨rfl, rfl⟩

/-- The mark leaves the level, and no option waits afterwards. -/
theorem level_of_take_endOfOptions (h : s.take .endOfOptions = .ok s') :
    s'.level = s.level ∧ s'.waiting = none := by
  cases hwaiting : s.waiting with
  | some switch =>
    simp only [take, hwaiting] at h
    cases h
  | none =>
    simp only [take, hwaiting] at h
    split at h <;> cases h <;> exact ⟨rfl, rfl⟩

/-- Plain texts that no option waits for leave the level. -/
theorem level_of_take_plains {texts : List String}
    (h : (texts.map Word.plain).foldlM take s = .ok s') (hwaiting : s.waiting = none) :
    s'.level = s.level := by
  induction texts generalizing s with
  | nil =>
    cases h
    rfl
  | cons text texts ih =>
    obtain ⟨t, hstep, hothers⟩ := foldlM_cons_eq_ok_iff.mp h
    obtain ⟨hlevel, hwaiting'⟩ := level_of_take_plain hstep hwaiting
    exact (ih hothers hwaiting').trans hlevel

/-- Arguments keep the level that is there, unless one of them joins the mark to the level. -/
theorem level_of_take_all {arguments : List String} {words : List Word}
    (hwords : Word.ofArguments arguments = .ok words) (h : words.foldlM take s = .ok s')
    (hlevel : s.level.isSome = true) :
    s'.level.isSome = true ∨
      ∃ argument ∈ arguments, ∃ word, Word.ofArgument argument = .ok word ∧ word.JoinsMark := by
  induction arguments generalizing words s with
  | nil =>
    cases hwords
    cases h
    exact .inl hlevel
  | cons argument rest ih =>
    rw [Word.ofArguments] at hwords
    split at hwords
    · -- Behind the mark there are only plain texts, and no option waits for one.
      cases hwords
      obtain ⟨t, hstep, hothers⟩ := foldlM_cons_eq_ok_iff.mp h
      obtain ⟨hkept, hwaiting⟩ := level_of_take_endOfOptions hstep
      rw [level_of_take_plains hothers hwaiting, hkept]
      exact .inl hlevel
    · next hmark =>
      cases hword : Word.ofArgument argument with
      | error e =>
        rw [hword] at hwords
        cases hwords
      | ok word =>
        cases hsorted : Word.ofArguments rest with
        | error e =>
          rw [hword, hsorted] at hwords
          cases hwords
        | ok others =>
          rw [hword, hsorted] at hwords
          cases hwords
          obtain ⟨t, hstep, hothers⟩ := foldlM_cons_eq_ok_iff.mp h
          rcases level_of_take hstep hlevel with hkept | hjoins | ⟨-, rfl⟩
          · rcases ih hsorted hothers hkept with hkept | ⟨a, ha, hlost⟩
            · exact .inl hkept
            · exact .inr ⟨a, List.mem_cons_of_mem argument ha, hlost⟩
          · exact .inr ⟨argument, List.mem_cons_self, word, hword, hjoins⟩
          · -- In front of the mark, the mark itself is no plain text.
            exact absurd (Word.eq_of_ofArgument_plain hword) hmark

end Settings

/-! ### Where faults come from -/

/-- The step does not end with a fault. -/
def Faultless {α : Type} (x : Except Stop α) : Prop :=
  ∀ fault, x ≠ .error (.fault fault)

section
variable {α β : Type}

theorem faultless_ok (a : α) : Faultless (.ok a : Except Stop α) :=
  nofun

theorem faultless_usage (e : UsageError) : Faultless (.error (.usage e) : Except Stop α) :=
  nofun

/-- A step that goes on with faultless steps is faultless. -/
theorem Faultless.bind {x : Except Stop α} {f : α → Except Stop β} (hx : Faultless x)
    (hf : ∀ a, Faultless (f a)) : Faultless (x >>= f) := by
  cases x with
  | error e =>
    intro fault h
    cases h
    exact hx fault rfl
  | ok a => exact hf a

/-- Faultless steps in a row are faultless. -/
theorem Faultless.foldlM {f : β → α → Except Stop β} (hf : ∀ b a, Faultless (f b a)) (b : β)
    (as : List α) : Faultless (as.foldlM f b) := by
  induction as generalizing b with
  | nil => exact faultless_ok b
  | cons a as ih =>
    rw [List.foldlM_cons]
    exact (hf b a).bind ih

end

namespace Settings

theorem faultless_turnOn (s : Settings) (switch : Switch) : Faultless (s.turnOn switch) := by
  cases switch <;> nofun

theorem faultless_assign (s : Settings) (switch : Switch) (value : String) :
    Faultless (s.assign switch value) := by
  unfold assign
  split
  · exact faultless_ok _
  · split
    · exact faultless_ok _
    · split
      · exact faultless_ok _
      · exact faultless_usage _
    · exact faultless_ok _

theorem faultless_cluster (switch : Switch) (letters : List Char) :
    Faultless (cluster switch letters) := by
  induction letters generalizing switch with
  | nil => exact faultless_ok _
  | cons letter rest ih =>
    unfold cluster
    split
    · next next _ => exact (ih next).bind fun _ => faultless_ok _
    · exact faultless_usage _

theorem faultless_take (s : Settings) (word : Word) : Faultless (s.take word) := by
  unfold take
  split
  · exact faultless_assign _ _ _
  · exact faultless_usage _
  · split <;> exact faultless_ok _
  · split <;> exact faultless_ok _
  · exact faultless_ok _
  · unfold takeOption
    split
    · exact faultless_ok _
    · exact faultless_assign _ _ _
    · exact faultless_assign _ _ _
    · exact faultless_turnOn _ _
    · exact faultless_usage _
    · exact (faultless_cluster _ _).bind fun _ => Faultless.foldlM faultless_turnOn _ _

end Settings

/-- Arguments of the right use ask for a run, unless one of them joins the mark to the option for
the level. -/
theorem Options.joinsMark_of_fault {arguments : List String} {fault : Fault}
    (h : Options.ofArguments arguments = .error (.fault fault)) :
    fault = .noLevel ∧
      ∃ argument ∈ arguments, ∃ word, Word.ofArgument argument = .ok word ∧ word.JoinsMark := by
  unfold ofArguments at h
  split at h
  · cases h
  · next words hwords =>
    cases htaken : words.foldlM Settings.take Settings.initial with
    | error e =>
      rw [htaken] at h
      cases h
      exact absurd htaken (Faultless.foldlM Settings.faultless_take _ _ fault)
    | ok settings =>
      rw [htaken] at h
      -- Only the level can be missing once there is an input file and nothing is left over.
      have hlost : fault = .noLevel ∧ settings.level = none := by
        change ofSettings settings = .error (.fault fault) at h
        unfold ofSettings at h
        split at h
        · cases h
        · cases h
        · split at h
          · split at h
            · cases h
            · next hlevel =>
              cases h
              exact ⟨rfl, hlevel⟩
          · cases h
      refine ⟨hlost.1, ?_⟩
      rcases Settings.level_of_take_all hwords htaken rfl with hkept | hjoins
      · rw [hlost.2] at hkept
        cases hkept
      · exact hjoins

end GridWalk.Cli
