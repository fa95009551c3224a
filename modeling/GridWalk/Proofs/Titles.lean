import GridWalk.Proofs.Drawings
import GridWalk.Proofs.Relisting
import Mathlib.Algebra.BigOperators.Group.List.Lemmas
import Mathlib.Data.List.Induction

/-!
# `GridWalk.Proofs.Titles`: the counts in the title of a drawing

The title counts the outcomes of a run by verdict. `Plot.tally` goes through the outcomes once and
keeps a list of entries, to which each outcome adds one. `IsTally` says what such a list has to be
without going through anything: the verdicts that occur, each of them once, in the order in which
they first occur, with the numbers of their occurrences. One more verdict keeps this
(`isTally_count`), so the tally of all outcomes has it (`isTally_tally`), and no other list has it
(`IsTally.eq`).

The other numbers of the title come from the document. The sides of the grid are written as they
are. The obstacles have gone through a set, which has one member for each different cell.

* `Plot.filterMap_title_calls`: a drawing has one title.
* `IsTally.sum_eq`: the numbers of a tally add up.
* `Plot.summary_eq_iff`: when the summary is the one for no journeys.
* `title_counts_add_up`: the title of the drawing of a text.
-/

set_option autoImplicit false

namespace GridWalk

/-- The text of a call that sets a title. -/
def DrawCall.title? : DrawCall → Option String
  | title text => some text
  | _ => none

/-- The entries count a list of verdicts. -/
structure IsTally (verdicts : List Verdict) (entries : List (Verdict × Nat)) : Prop where
  /-- The verdicts that occur have entries, and no others. -/
  mem_iff : ∀ v, v ∈ entries.map Prod.fst ↔ v ∈ verdicts
  /-- An entry stands before another if its verdict occurs before the other one does. -/
  ordered : (entries.map Prod.fst).Pairwise fun v w => verdicts.idxOf v < verdicts.idxOf w
  /-- An entry has the number of occurrences. -/
  count : ∀ entry ∈ entries, entry.2 = verdicts.count entry.1

namespace IsTally

variable {verdicts : List Verdict} {entries others : List (Verdict × Nat)}

/-- No verdict has two entries. -/
theorem nodup (h : IsTally verdicts entries) : (entries.map Prod.fst).Nodup := by
  refine h.ordered.imp fun {v w} hlt heq => ?_
  subst heq
  exact Nat.lt_irrefl _ hlt

/-- The entries are known from their verdicts. -/
theorem eq_map (h : IsTally verdicts entries) :
    entries = (entries.map Prod.fst).map fun v => (v, verdicts.count v) := by
  have hentries : ∀ entry ∈ entries, (entry.1, verdicts.count entry.1) = entry :=
    fun entry hentry => Prod.ext rfl (h.count entry hentry).symm
  rw [List.map_map]
  exact ((List.map_congr_left hentries).trans (List.map_id' entries)).symm

/-- A list of verdicts is counted in one way only. -/
theorem eq (h : IsTally verdicts entries) (hothers : IsTally verdicts others) :
    entries = others := by
  have hperm : (entries.map Prod.fst).Perm (others.map Prod.fst) := by
    rw [List.perm_ext_iff_of_nodup h.nodup hothers.nodup]
    intro v
    rw [h.mem_iff, hothers.mem_iff]
  -- Two arrangements in the same order are the same.
  have hverdicts : entries.map Prod.fst = others.map Prod.fst := by
    refine hperm.eq_of_pairwise ?_ h.ordered hothers.ordered
    intro v w _ _ hvw hwv
    exact absurd hvw (Nat.lt_asymm hwv)
  rw [h.eq_map, hothers.eq_map, hverdicts]

/-- The numbers of the entries add up to the number of the verdicts. -/
theorem sum_eq (h : IsTally verdicts entries) :
    (entries.map Prod.snd).sum = verdicts.length := by
  have hperm : (entries.map Prod.fst).Perm verdicts.dedup := by
    rw [List.perm_ext_iff_of_nodup h.nodup verdicts.nodup_dedup]
    intro v
    rw [h.mem_iff, List.mem_dedup]
  calc
    (entries.map Prod.snd).sum = ((entries.map Prod.fst).map verdicts.count).sum := by
      rw [List.map_map]
      exact congrArg List.sum (List.map_congr_left h.count)
    _ = (verdicts.dedup.map verdicts.count).sum := (hperm.map _).sum_eq
    _ = verdicts.length := List.sum_map_count_dedup_eq_length verdicts

end IsTally

namespace Plot

variable {v : Verdict} {entries : List (Verdict × Nat)}

/-- One more occurrence adds an entry behind the others unless the verdict has one. -/
theorem map_fst_count (v : Verdict) (entries : List (Verdict × Nat)) :
    (count v entries).map Prod.fst =
      entries.map Prod.fst ++ if v ∈ entries.map Prod.fst then [] else [v] := by
  induction entries with
  | nil => rfl
  | cons entry rest ih =>
    obtain ⟨w, n⟩ := entry
    unfold count
    split
    · next heq => simp [heq]
    · next hne =>
      rw [List.map_cons, ih]
      simp only [List.map_cons, List.mem_cons, hne, false_or]
      rfl

/-- One more occurrence adds one to the number of its verdict and nothing to the others. -/
theorem snd_of_mem_count (numbers : Verdict → Nat) (hnodup : (entries.map Prod.fst).Nodup)
    (hnumbers : ∀ entry ∈ entries, entry.2 = numbers entry.1)
    (hnew : v ∉ entries.map Prod.fst → numbers v = 0) :
    ∀ entry ∈ count v entries, entry.2 = numbers entry.1 + if entry.1 = v then 1 else 0 := by
  induction entries with
  | nil =>
    intro entry hentry
    rw [List.mem_singleton.mp hentry, hnew List.not_mem_nil, if_pos rfl]
  | cons first rest ih =>
    obtain ⟨w, n⟩ := first
    obtain ⟨hw, hnodup⟩ := List.nodup_cons.mp hnodup
    obtain ⟨hn, hrest⟩ := List.forall_mem_cons.mp hnumbers
    unfold count
    split
    · next heq =>
      subst heq
      refine List.forall_mem_cons.mpr ⟨by simpa using hn, fun entry hentry => ?_⟩
      -- The verdict has no second entry behind its first.
      have hne : entry.1 ≠ v := by
        intro heq
        have hmem : entry.1 ∈ rest.map Prod.fst := List.mem_map_of_mem hentry
        exact hw (heq ▸ hmem)
      rw [if_neg hne]
      exact hrest entry hentry
    · next hne =>
      refine List.forall_mem_cons.mpr ⟨by simpa [Ne.symm hne] using hn, ih hnodup hrest ?_⟩
      intro hv
      exact hnew (by simpa [hne] using hv)

/-- Each verdict keeps the tally. -/
theorem isTally_count {verdicts : List Verdict} (h : IsTally verdicts entries) (v : Verdict) :
    IsTally (verdicts ++ [v]) (count v entries) := by
  refine ⟨fun w => ?_, ?_, fun entry hentry => ?_⟩
  · rw [map_fst_count, List.mem_append, List.mem_append, h.mem_iff, List.mem_singleton]
    split
    · next hv =>
      have hv : v ∈ verdicts := (h.mem_iff v).mp hv
      simp only [List.not_mem_nil, or_false]
      exact (or_iff_left_of_imp fun heq => heq ▸ hv).symm
    · rw [List.mem_singleton]
  · -- The old entries have the places they had, and a new one has a place behind them.
    have hplace : ∀ w ∈ entries.map Prod.fst, (verdicts ++ [v]).idxOf w = verdicts.idxOf w :=
      fun w hw => List.idxOf_append_of_mem ((h.mem_iff w).mp hw)
    have hold : (entries.map Prod.fst).Pairwise fun w x =>
        (verdicts ++ [v]).idxOf w < (verdicts ++ [v]).idxOf x := by
      refine h.ordered.imp_of_mem fun {w x} hw hx hlt => ?_
      rw [hplace w hw, hplace x hx]
      exact hlt
    rw [map_fst_count]
    split
    · rwa [List.append_nil]
    · next hv =>
      refine List.pairwise_append.mpr ⟨hold, List.pairwise_singleton _ v, fun w hw x hx => ?_⟩
      rw [List.mem_singleton.mp hx, hplace w hw,
        List.idxOf_append_of_notMem (mt (h.mem_iff v).mpr hv)]
      exact Nat.lt_add_right _ (List.idxOf_lt_length_iff.mpr ((h.mem_iff w).mp hw))
  · have hnew : v ∉ entries.map Prod.fst → verdicts.count v = 0 :=
      fun hv => List.count_eq_zero_of_not_mem (mt (h.mem_iff v).mpr hv)
    have hnumber := snd_of_mem_count (fun w => verdicts.count w) h.nodup h.count hnew entry hentry
    rw [hnumber, List.count_append, List.count_singleton]
    simp only [beq_iff_eq, @eq_comm _ v]

/-- The tally counts the verdicts of the outcomes. -/
theorem isTally_tally (outcomes : List Outcome) :
    IsTally (outcomes.map Outcome.verdict) (tally outcomes) := by
  -- The invariant is about the outcomes that have been gone through, so the last one is split off.
  induction outcomes using List.reverseRecOn with
  | nil => exact ⟨fun _ => Iff.rfl, .nil, fun _ hentry => by cases hentry⟩
  | append_singleton outcomes o ih =>
    rw [tally, List.foldl_append, List.map_append]
    exact isTally_count ih o.verdict

/-! ### The summary -/

/-- The texts of the entries, with bars between them. -/
theorem summary_eq (outcomes : List Outcome) :
    summary outcomes = if outcomes = [] then "No journeys"
      else " | ".intercalate
        ((tally outcomes).map fun entry => entry.1.name ++ ": " ++ toString entry.2) := by
  have hsum := (isTally_tally outcomes).sum_eq
  unfold summary
  cases outcomes with
  | nil => rfl
  | cons o rest =>
    have hne : tally (o :: rest) ≠ [] := by
      intro heq
      simp [heq] at hsum
    simp [hne]

/-- A text that is joined from parts starts with the first of them. -/
theorem exists_intercalate_cons (separator part : String) (parts : List String) :
    ∃ rest, separator.intercalate (part :: parts) = part ++ rest := by
  cases parts with
  | nil => exact ⟨"", by simp⟩
  | cons next parts =>
    exact ⟨_, (String.intercalate_cons_cons).trans (String.append_assoc ..)⟩

/-- The summary says that there are no journeys exactly when there are none. -/
theorem summary_eq_iff (outcomes : List Outcome) :
    summary outcomes = "No journeys" ↔ outcomes = [] := by
  rw [summary_eq]
  split
  · next hnil => exact iff_of_true rfl hnil
  · next hne =>
    refine iff_of_false (fun heq => ?_) hne
    cases htally : tally outcomes with
    | nil =>
      rw [htally] at heq
      revert heq
      decide
    | cons entry entries =>
      -- The summary starts with the word of a verdict, and no verdict has a word with an N.
      rw [htally, List.map_cons] at heq
      obtain ⟨rest, hrest⟩ := exists_intercalate_cons " | "
        (entry.1.name ++ ": " ++ toString entry.2)
        (entries.map fun entry => entry.1.name ++ ": " ++ toString entry.2)
      have hhead := congrArg (·.toList.head?) (hrest.symm.trans heq)
      revert hhead
      cases entry.1 <;> simp [Verdict.name]

/-! ### The title -/

/-- What is drawn of a journey sets no title. -/
theorem title?_of_mem_journey {i : Nat} {path : List Pose} {o : Outcome} {call : DrawCall}
    (h : call ∈ journey i path o) : call.title? = none := by
  have hcall := isOfJourney_of_mem_journey h
  cases call <;> first | rfl | cases hcall

/-- A drawing has one title, its heading. -/
theorem filterMap_title_calls (a : Arena) (trips : List (List Pose × Outcome))
    (title path : String) (arrangement : a.obstacles.Arrangement) :
    (calls a trips title path arrangement).filterMap DrawCall.title? =
      [heading title a (trips.map Prod.snd)] := by
  have hframe : (frame a.grid).filterMap DrawCall.title? = [] := by
    unfold frame
    split <;> rfl
  have hobstacles : (obstacles arrangement).filterMap DrawCall.title? = [] := by
    rw [obstacles, List.filterMap_map, List.filterMap_eq_nil_iff]
    exact fun _ _ => rfl
  have hjourneys : (trips.zipIdx.flatMap fun entry =>
      journey entry.2 entry.1.1 entry.1.2).filterMap DrawCall.title? = [] := by
    rw [List.filterMap_eq_nil_iff]
    intro call hcall
    obtain ⟨entry, -, hcall⟩ := List.mem_flatMap.mp hcall
    exact title?_of_mem_journey hcall
  rw [calls]
  simp only [List.filterMap_append, hframe, hobstacles, hjourneys]
  rfl

end Plot

/-- The counts in the title of a drawing add up.

Let the run of a text be completed, and let the drawing have any title of the caller and any file,
and go through the obstacles in any order. The drawing has one title. It gives the sides of the
document's grid and the number of the different cells that the document lists as obstacles. Its
summary lists the verdicts of the journeys, each verdict that occurs once, in the order of first
occurrence, with the number of journeys that have it. There is only one such list, and its numbers
add up to the number of journeys. The summary says that there are no journeys exactly when there are
none. -/
theorem title_counts_add_up {text : String} {a : Arena} {outcomes : List Outcome}
    (h : run text = .completed a outcomes) (order : CellSet.Order) (title path : String) :
    ∃ (d : Document) (entries : List (Verdict × Nat)) (summary : String),
      Document.read text = .ok d ∧ d.arena = a ∧ outcomes = d.journeys.map a.outcome ∧
      (drawing order title path text).filterMap DrawCall.title? =
        [(if title.isEmpty then "" else title ++ "\n") ++ "Grid " ++ d.grid.extent
          ++ " | Obstacles: " ++ toString d.obstacles.toFinset.card ++ "\n" ++ summary] ∧
      (summary = if d.journeys = [] then "No journeys"
        else " | ".intercalate
          (entries.map fun entry => entry.1.name ++ ": " ++ toString entry.2)) ∧
      (summary = "No journeys" ↔ d.journeys = []) ∧
      IsTally (outcomes.map Outcome.verdict) entries ∧
      (entries.map Prod.fst).Nodup ∧
      (∀ others, IsTally (outcomes.map Outcome.verdict) others → others = entries) ∧
      (entries.map Prod.snd).sum = d.journeys.length := by
  obtain ⟨d, hread, -, rfl, rfl⟩ := Run.run_eq_completed_iff.mp h
  let outcomes := d.journeys.map d.arena.outcome
  have hnil : outcomes = [] ↔ d.journeys = [] := List.map_eq_nil_iff
  have htally := Plot.isTally_tally outcomes
  refine ⟨d, Plot.tally outcomes, Plot.summary outcomes, hread, rfl, rfl, ?_, ?_, ?_, htally,
    htally.nodup, fun others hothers => hothers.eq htally, ?_⟩
  · have houtcomes : (d.journeys.map fun j => (d.arena.path j, d.arena.outcome j)).map Prod.snd =
        outcomes := List.map_map
    show (drawing order title path text).filterMap DrawCall.title? = _
    rw [drawing_eq h, Plot.filterMap_title_calls]
    show [Plot.heading title d.arena
      ((d.journeys.map fun j => (d.arena.path j, d.arena.outcome j)).map Prod.snd)] = _
    rw [houtcomes, Plot.heading, ← CellSet.size_ofList]
    rfl
  · rw [Plot.summary_eq]
    exact if_congr hnil rfl rfl
  · exact (Plot.summary_eq_iff outcomes).trans hnil
  · rw [htally.sum_eq, List.length_map, List.length_map]

/-- Two robots crash into an obstacle that is listed twice, and one arrives between them. -/
theorem title_counts_add_up_mixed :
    ∃ a outcomes,
      run "GRID 2x1 OBSTACLE 1 0 OBSTACLE 1 0 0 0 E\nF\n1 0 E 0 0 E\nL\n0 0 N 1 0 E\nL\n1 0 N"
        = .completed a outcomes ∧
      ∃ entries : List (Verdict × Nat),
        entries = [(.crashed, 2), (.success, 1)] ∧ (entries.map Prod.snd).sum = 3 ∧
        (drawing CellSet.arranged "Maze" "image.png"
            "GRID 2x1 OBSTACLE 1 0 OBSTACLE 1 0 0 0 E\nF\n1 0 E 0 0 E\nL\n0 0 N 1 0 E\nL\n1 0 N"
          ).filterMap DrawCall.title? =
          ["Maze\nGrid 2x1 | Obstacles: 1\nCRASHED: 2 | SUCCESS: 1"] := by
  have hread : Document.read
      "GRID 2x1 OBSTACLE 1 0 OBSTACLE 1 0 0 0 E\nF\n1 0 E 0 0 E\nL\n0 0 N 1 0 E\nL\n1 0 N"
      = .ok ⟨⟨2, 1⟩, [⟨1, 0⟩, ⟨1, 0⟩],
        [⟨⟨⟨0, 0⟩, .east⟩, [.forward], ⟨⟨1, 0⟩, .east⟩⟩,
          ⟨⟨⟨0, 0⟩, .east⟩, [.left], ⟨⟨0, 0⟩, .north⟩⟩,
          ⟨⟨⟨1, 0⟩, .east⟩, [.left], ⟨⟨1, 0⟩, .north⟩⟩]⟩ := by
    decide +kernel
  have hrun := Run.run_eq_completed_iff.mpr
    ⟨_, hread, Document.violations_eq_nil_iff.mp (by decide), rfl, rfl⟩
  obtain ⟨d, entries, summary, hread', -, -, htitle, hsummary, -, -, -, hunique, hsum⟩ :=
    title_counts_add_up hrun CellSet.arranged "Maze" "image.png"
  cases hread.symm.trans hread'
  have hentries : [(Verdict.crashed, 2), (Verdict.success, 1)] = entries := by
    refine hunique _ ⟨?_, by decide, by decide⟩
    intro v
    cases v <;> decide
  subst hentries
  refine ⟨_, _, hrun, _, rfl, hsum, ?_⟩
  rw [htitle, hsummary]
  decide

end GridWalk
