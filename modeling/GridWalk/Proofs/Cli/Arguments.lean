import GridWalk.Cli.Options

/-!
# `GridWalk.Proofs.Cli.Arguments`: every choice of options can be asked for

Options may be shortened, joined and mixed, so one choice of options can be asked for in many ways.
One way is always open: each option has its full name, its value is joined to it by `=`, and the
mark that ends the options stands in front of the input file, so the name of that file can be
anything. The mark itself is the only value that cannot be joined.

* `Options.arguments`: these arguments.
* `Options.ofArguments_arguments`: they ask for the options that they were made from.
-/

set_option autoImplicit false

namespace GridWalk.Cli

/-- Arguments that ask for the options. -/
def Options.arguments (o : Options) : List String :=
  (if o.visualise then ["--visualise"] else []) ++ (if o.json then ["--json"] else [])
    ++ (o.plot.map fun path => "--plot=" ++ path).toList
    ++ ["--log-level=" ++ o.level.name, endMark, o.input]

namespace Word

/-- Arguments are sorted one by one up to the mark that ends the options. -/
theorem ofArguments_cons {argument : String} {rest : List String} {word : Word}
    {words : List Word} (hmark : argument ≠ endMark) (hword : ofArgument argument = .ok word)
    (hwords : ofArguments rest = .ok words) :
    ofArguments (argument :: rest) = .ok (word :: words) := by
  rw [ofArguments, if_neg hmark, hword, hwords]
  rfl

/-- A text is split at the mark behind a beginning without it. -/
theorem splitAtFirst_append {mark : Char} {first rest : List Char} (h : mark ∉ first) :
    splitAtFirst mark (first ++ mark :: rest) = some (first, rest) := by
  induction first with
  | nil => exact if_pos rfl
  | cons c first ih =>
    rw [List.mem_cons, not_or] at h
    rw [List.cons_append, splitAtFirst, if_neg (Ne.symm h.1), ih h.2]
    rfl

/-- No option has a name with the sign `=` in it. -/
theorem ofName?_eq_none {name : String} (h : '=' ∈ name.toList) : Switch.ofName? name = none := by
  have hnames : ∀ entry ∈ Switch.names, '=' ∉ entry.1.toList := by decide
  refine List.lookup_eq_none_iff.mpr fun entry hentry => ?_
  rw [bne_iff_ne]
  rintro rfl
  exact hnames entry hentry h

/-- The text behind the full name of an option and the sign `=` is the value of the option. -/
theorem ofArguments_joined (name : List Char) {switch : Switch} {argument value : String}
    {rest : List String} {words : List Word}
    (hname : Switch.ofName? (String.ofList ('-' :: '-' :: name)) = some switch)
    (hsign : '=' ∉ '-' :: '-' :: name)
    (hargument : argument.toList = '-' :: '-' :: name ++ '=' :: value.toList)
    (hwords : ofArguments rest = .ok words) :
    ofArguments (argument :: rest) = .ok (.option switch (.value value) :: words) := by
  have hmark : argument ≠ endMark := by
    rintro rfl
    have hin : '=' ∈ endMark.toList := by simp [hargument]
    exact absurd hin (by decide)
  have hunknown : Switch.ofName? argument = none := ofName?_eq_none (by simp [hargument])
  have hnamed : named? argument = some (.option switch (.value value)) := by
    rw [named?, hunknown, hargument]
    simp only [splitAtFirst_append hsign, hname]
    simp [joinedTo]
  refine ofArguments_cons hmark ?_ hwords
  unfold ofArgument
  simp [hargument, hnamed]

end Word

/-- These arguments are sorted into these words. -/
theorem Options.ofArguments_words (o : Options) :
    Word.ofArguments o.arguments = .ok
      ((if o.visualise then [.option .visualise .nothing] else [])
        ++ (if o.json then [.option .json .nothing] else [])
        ++ (o.plot.map fun path => .option .plot (.value path)).toList
        ++ [.option .logLevel (.value o.level.name), .endOfOptions, .plain o.input]) := by
  have hlevel : Word.ofArguments ["--log-level=" ++ o.level.name, endMark, o.input] = .ok
      [.option .logLevel (.value o.level.name), .endOfOptions, .plain o.input] :=
    Word.ofArguments_joined "log-level".toList (by decide) (by decide) (by simp) rfl
  have hplot : Word.ofArguments ((o.plot.map fun path => "--plot=" ++ path).toList
        ++ ["--log-level=" ++ o.level.name, endMark, o.input]) = .ok
      ((o.plot.map fun path => .option .plot (.value path)).toList
        ++ [.option .logLevel (.value o.level.name), .endOfOptions, .plain o.input]) := by
    cases o.plot with
    | none => exact hlevel
    | some path =>
      exact Word.ofArguments_joined "plot".toList (by decide) (by decide) (by simp) hlevel
  have hjson : Word.ofArgument "--json" = .ok (.option .json .nothing) := by rfl
  have hvisualise : Word.ofArgument "--visualise" = .ok (.option .visualise .nothing) := by rfl
  unfold arguments
  cases o.visualise <;> cases o.json
  · exact hplot
  · exact Word.ofArguments_cons (by decide) hjson hplot
  · exact Word.ofArguments_cons (by decide) hvisualise hplot
  · exact Word.ofArguments_cons (by decide) hvisualise
      (Word.ofArguments_cons (by decide) hjson hplot)

/-- These arguments ask for the options that they were made from, whatever the input file is
called. -/
theorem Options.ofArguments_arguments {o : Options} (hplot : o.plot ≠ some endMark) :
    Options.ofArguments o.arguments = .ok o := by
  obtain ⟨input, visualise, json, plot, level⟩ := o
  have hflags : ((if visualise then [Word.option .visualise .nothing] else [])
        ++ if json then [Word.option .json .nothing] else []).foldlM Settings.take Settings.initial
      = .ok ⟨none, false, visualise, json, none, some .warning, none, []⟩ := by
    cases visualise <;> cases json <;> rfl
  have hpath : (plot.map fun path => Word.option .plot (.value path)).toList.foldlM Settings.take
        ⟨none, false, visualise, json, none, some .warning, none, []⟩
      = .ok ⟨none, false, visualise, json, plot, some .warning, none, []⟩ := by
    cases plot with
    | none => rfl
    | some path =>
      have hvalue : path ≠ endMark := fun h => hplot (congrArg some h)
      simp [Settings.take, Settings.takeOption, Switch.takesValue, Settings.assign, hvalue]
  have hlast : [Word.option .logLevel (.value level.name), .endOfOptions, .plain input].foldlM
        Settings.take ⟨none, false, visualise, json, plot, some .warning, none, []⟩
      = .ok ⟨some input, true, visualise, json, plot, some level, none, []⟩ := by
    cases level <;> rfl
  have hnext {α β : Type} (a : α) (f : α → Except Stop β) : (Except.ok a >>= f) = f a := rfl
  rw [Options.ofArguments, Options.ofArguments_words]
  dsimp only
  rw [List.foldlM_append, List.foldlM_append, hflags, hnext, hpath, hnext, hlast, hnext]
  rfl

end GridWalk.Cli
