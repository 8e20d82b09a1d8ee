import JunctionReplay.Proofs.Trajectory.TimeOrder

/-!
# Samples brought into order

Whether samples come in order or not, what `normalize` makes of them is the same: those with a
finite time, sorted by key, of which the first one of each time is kept.  Sorting is stable, so the
samples of exactly one time keep their order, and the one that is kept is the earliest of them.

Equality is coarser than the keys only between the two zeros.  There the sample that is kept is one
of the smaller key, which need not be the earlier one.

## Main Statements

* `Trajectory.mem_firstOfEachTime_iff` — what is kept of samples that are in order of their ranks.
* `Trajectory.filter_sortByTime` — sorting keeps the order of the samples of one time.
* `Trajectory.normalize_eq` — samples in order are treated like all others.
* `Trajectory.mem_normalize_iff` — exactly which samples are left.
* `Trajectory.pairwise_rank_normalize` — they are in strictly increasing order.
-/

namespace JunctionReplay.Trajectory

open Machine (rank HasRank)

variable {sample kept next : Sample Float} {samples rest : List (Sample Float)} {time : Float}

/-! ## The earliest sample of a time -/

/-- The earliest sample whose time equals the given one. -/
def earliestAt (samples : List (Sample Float)) (time : Float) : Option (Sample Float) :=
  samples.find? fun sample => sample.time == time

/-- The earliest sample of exactly the given time, for which the two zeros differ. -/
def earliestExactlyAt (samples : List (Sample Float)) (time : Float) : Option (Sample Float) :=
  samples.find? fun sample => decide (sample.time = time)

theorem earliestAt_cons_of_beq (same : kept.time == time) :
    earliestAt (kept :: samples) time = some kept :=
  List.find?_cons_of_pos same

theorem earliestAt_cons_of_not_beq (different : ¬ kept.time == time) :
    earliestAt (kept :: samples) time = earliestAt samples time :=
  List.find?_cons_of_neg different

theorem mem_of_earliestAt (found : earliestAt samples time = some sample) : sample ∈ samples :=
  List.mem_of_find?_eq_some found

theorem beq_of_earliestAt (found : earliestAt samples time = some sample) :
    sample.time == time := by
  have holds := (List.find?_eq_some_iff_append.mp found).1
  exact holds

/-- Samples without a finite time do not count where only those with one are looked for. -/
theorem find?_timed {test : Sample Float → Bool}
    (finite : ∀ other : Sample Float, test other → other.time.isFinite) :
    (timed samples).find? test = samples.find? test := by
  rw [timed, List.find?_filter]
  refine congrArg (List.find? · samples) (funext fun other => ?_)
  rw [Bool.eq_iff_iff, decide_eq_true_iff, and_iff_right_iff_imp]
  exact finite other

theorem earliestExactlyAt_timed (finite : time.isFinite) :
    earliestExactlyAt (timed samples) time = earliestExactlyAt samples time := by
  refine find?_timed fun other same => ?_
  rw [of_decide_eq_true same]
  exact finite

/-! ## Dropping repetitions -/

theorem AllRanked.sublist (ranked : AllRanked samples) (part : rest.Sublist samples) :
    AllRanked rest :=
  fun sample member => ranked sample (part.subset member)

theorem sublist_without_next : (kept :: rest).Sublist (kept :: next :: rest) :=
  (List.sublist_cons_self next rest).cons_cons kept

theorem dropRepeated_sublist (kept : Sample Float) (samples : List (Sample Float)) :
    (dropRepeated kept samples).Sublist (kept :: samples) := by
  induction samples generalizing kept with
  | nil => exact List.Sublist.refl _
  | cons next rest ih =>
      unfold dropRepeated
      split
      · exact (ih kept).trans sublist_without_next
      · exact (ih next).cons_cons kept

/-- What follows a change of time is later. -/
theorem rank_lt_of_not_beq (ranked : AllRanked (kept :: next :: rest))
    (ordered : (kept :: next :: rest).Pairwise fun a b => rank a.time ≤ rank b.time)
    (different : ¬ next.time == kept.time) (member : sample ∈ next :: rest) :
    rank kept.time < rank sample.time := by
  have rankedKept := ranked kept List.mem_cons_self
  have rankedNext := ranked next (List.mem_cons_of_mem _ List.mem_cons_self)
  have apart : rank next.time ≠ rank kept.time := by
    rwa [beq_iff_of_ranked rankedNext rankedKept] at different
  obtain ⟨fromKept, orderedRest⟩ := List.pairwise_cons.mp ordered
  have keptLe := fromKept next List.mem_cons_self
  have nextLe : rank next.time ≤ rank sample.time := by
    rcases List.mem_cons.mp member with rfl | member
    · exact Int.le_refl _
    · exact (List.pairwise_cons.mp orderedRest).1 sample member
  omega

/-- A dropped sample would be found only behind the one that is kept for its time. -/
theorem earliestAt_without_next (ranked : HasRank kept.time) (same : next.time == kept.time) :
    earliestAt (kept :: next :: rest) time = earliestAt (kept :: rest) time := by
  by_cases isKept : kept.time == time
  · rw [earliestAt_cons_of_beq isKept, earliestAt_cons_of_beq isKept]
  · have isNotNext : ¬ next.time == time := by
      intro isNext
      refine isKept ?_
      rw [Machine.beq_iff] at same isNext ⊢
      exact ⟨⟨ranked, isNext.1.2⟩, same.2.symm.trans isNext.2⟩
    rw [earliestAt_cons_of_not_beq isKept, earliestAt_cons_of_not_beq isKept,
      earliestAt_cons_of_not_beq isNotNext]

/-- Of samples in order those are kept that are the earliest of their time. -/
theorem mem_dropRepeated_iff (ranked : AllRanked (kept :: samples))
    (ordered : (kept :: samples).Pairwise fun a b => rank a.time ≤ rank b.time) :
    sample ∈ dropRepeated kept samples ↔
      earliestAt (kept :: samples) sample.time = some sample := by
  induction samples generalizing kept with
  | nil =>
      have rankedKept := ranked kept List.mem_cons_self
      rw [dropRepeated, List.mem_singleton]
      constructor
      · rintro rfl
        exact earliestAt_cons_of_beq ((beq_iff_of_ranked rankedKept rankedKept).mpr rfl)
      · intro found
        exact List.mem_singleton.mp (mem_of_earliestAt found)
  | cons next rest ih =>
      have rankedKept := ranked kept List.mem_cons_self
      unfold dropRepeated
      split
      next same =>
        rw [ih (ranked.sublist sublist_without_next) (ordered.sublist sublist_without_next),
          earliestAt_without_next rankedKept same]
      next different =>
        rw [List.mem_cons, ih (ranked.sublist (List.sublist_cons_self _ _))
          (List.pairwise_cons.mp ordered).2]
        constructor
        · rintro (rfl | found)
          · exact earliestAt_cons_of_beq ((beq_iff_of_ranked rankedKept rankedKept).mpr rfl)
          · have later := rank_lt_of_not_beq ranked ordered different (mem_of_earliestAt found)
            have isNotKept : ¬ kept.time == sample.time := by
              rw [Machine.beq_iff]
              exact fun same => absurd same.2 (Int.ne_of_lt later)
            rw [earliestAt_cons_of_not_beq isNotKept]
            exact found
        · intro found
          by_cases isKept : kept.time == sample.time
          · rw [earliestAt_cons_of_beq isKept] at found
            exact Or.inl (Option.some.inj found).symm
          · rw [earliestAt_cons_of_not_beq isKept] at found
            exact Or.inr found

theorem pairwise_dropRepeated (ranked : AllRanked (kept :: samples))
    (ordered : (kept :: samples).Pairwise fun a b => rank a.time ≤ rank b.time) :
    (dropRepeated kept samples).Pairwise fun a b => rank a.time < rank b.time := by
  induction samples generalizing kept with
  | nil => exact List.pairwise_singleton _ _
  | cons next rest ih =>
      unfold dropRepeated
      split
      next same =>
        exact ih (ranked.sublist sublist_without_next) (ordered.sublist sublist_without_next)
      next different =>
        have tail := ih (ranked.sublist (List.sublist_cons_self _ _))
          (List.pairwise_cons.mp ordered).2
        refine List.pairwise_cons.mpr ⟨fun other member => ?_, tail⟩
        exact rank_lt_of_not_beq ranked ordered different
          ((dropRepeated_sublist next rest).subset member)

/-- Samples of strictly increasing times are all kept. -/
theorem dropRepeated_of_increasing
    (increasing : (kept :: samples).Pairwise fun a b => rank a.time < rank b.time) :
    dropRepeated kept samples = kept :: samples := by
  induction samples generalizing kept with
  | nil => rfl
  | cons next rest ih =>
      obtain ⟨fromKept, increasingRest⟩ := List.pairwise_cons.mp increasing
      have different : ¬ next.time == kept.time := by
        rw [Machine.beq_iff]
        exact fun same => absurd same.2 (Int.ne_of_gt (fromKept next List.mem_cons_self))
      rw [dropRepeated, if_neg different, ih increasingRest]

theorem firstOfEachTime_of_increasing
    (increasing : samples.Pairwise fun a b => rank a.time < rank b.time) :
    firstOfEachTime samples = samples := by
  cases samples with
  | nil => rfl
  | cons kept rest => exact dropRepeated_of_increasing increasing

section

variable (ranked : AllRanked samples)
  (ordered : samples.Pairwise fun a b => rank a.time ≤ rank b.time)

include ranked ordered

theorem mem_firstOfEachTime_iff :
    sample ∈ firstOfEachTime samples ↔ earliestAt samples sample.time = some sample := by
  cases samples with
  | nil => simp [firstOfEachTime, earliestAt]
  | cons kept rest => exact mem_dropRepeated_iff ranked ordered

theorem pairwise_firstOfEachTime :
    (firstOfEachTime samples).Pairwise fun a b => rank a.time < rank b.time := by
  cases samples with
  | nil => exact List.Pairwise.nil
  | cons kept rest => exact pairwise_dropRepeated ranked ordered

end

/-! ## Sorting -/

/-- Samples are compared by their keys. -/
def isNotLater (first second : Sample Float) : Bool :=
  decide (orderKey first.time ≤ orderKey second.time)

theorem isNotLater_trans (a b c : Sample Float) (first : isNotLater a b) (second : isNotLater b c) :
    isNotLater a c := by
  simp only [isNotLater, decide_eq_true_eq] at first second ⊢
  exact Int.le_trans first second

theorem isNotLater_total (a b : Sample Float) : (isNotLater a b || isNotLater b a) = true := by
  simp only [isNotLater, Bool.or_eq_true, decide_eq_true_eq]
  exact Int.le_total _ _

theorem sortByTime_perm (samples : List (Sample Float)) : (sortByTime samples).Perm samples :=
  List.mergeSort_perm _ _

theorem pairwise_sortByTime (samples : List (Sample Float)) :
    (sortByTime samples).Pairwise fun a b => orderKey a.time ≤ orderKey b.time := by
  have sorted : (sortByTime samples).Pairwise fun a b => isNotLater a b :=
    List.pairwise_mergeSort isNotLater_trans isNotLater_total samples
  simpa only [isNotLater, decide_eq_true_eq] using sorted

/-- Sorting keeps the order of the samples of exactly one time. -/
theorem filter_sortByTime (samples : List (Sample Float)) (time : Float) :
    (sortByTime samples).filter (fun sample => decide (sample.time = time)) =
      samples.filter fun sample => decide (sample.time = time) := by
  have level : (samples.filter fun sample => decide (sample.time = time)).Pairwise fun a b =>
      isNotLater a b := by
    refine List.Pairwise.imp_of_mem ?_ (List.pairwise_of_forall (R := fun _ _ => True)
      fun _ _ => trivial)
    intro a b memberA memberB _
    have timeA := of_decide_eq_true (List.mem_filter.mp memberA).2
    have timeB := of_decide_eq_true (List.mem_filter.mp memberB).2
    rw [isNotLater, timeA, timeB]
    exact decide_eq_true (Int.le_refl _)
  have stays : (samples.filter fun sample => decide (sample.time = time)).Sublist
      (sortByTime samples) :=
    List.sublist_mergeSort isNotLater_trans isNotLater_total level List.filter_sublist
  have staysAmong := stays.filter fun sample => decide (sample.time = time)
  simp only [List.filter_filter, Bool.and_self] at staysAmong
  -- Both hold the same number of samples, so that nothing is added in between.
  exact (staysAmong.eq_of_length ((sortByTime_perm samples).filter _).length_eq.symm).symm

theorem earliestExactlyAt_sortByTime (samples : List (Sample Float)) (time : Float) :
    earliestExactlyAt (sortByTime samples) time = earliestExactlyAt samples time := by
  unfold earliestExactlyAt
  rw [← List.head?_filter, filter_sortByTime, List.head?_filter]

/-- Samples of strictly increasing times are already sorted. -/
theorem sortByTime_of_increasing
    (increasing : samples.Pairwise fun a b => rank a.time < rank b.time) :
    sortByTime samples = samples := by
  refine List.mergeSort_of_pairwise (increasing.imp fun {a b} lt => decide_eq_true ?_)
  refine Int.not_lt.mp fun later => ?_
  exact absurd (rank_le_of_orderKey_le (Int.le_of_lt later)) (Int.not_le.mpr lt)

/-- Samples of which no two are of one time are told apart by their times. -/
theorem eq_of_time_eq (distinct : samples.Pairwise fun a b => a.time ≠ b.time)
    {a b : Sample Float} (memberA : a ∈ samples) (memberB : b ∈ samples)
    (same : a.time = b.time) : a = b := by
  have told : ∀ a ∈ samples, ∀ b ∈ samples, a.time = b.time → a = b :=
    List.Pairwise.forall_of_forall_of_flip (fun _ _ _ => rfl)
      (distinct.imp fun different same => absurd same different)
      (distinct.imp fun different same => absurd same.symm different)
  exact told a memberA b memberB same

/-- Sorting forgets in which order samples came if no two of them are of one time. -/
theorem sortByTime_eq_of_perm (same : rest.Perm samples)
    (distinct : samples.Pairwise fun a b => a.time ≠ b.time) :
    sortByTime rest = sortByTime samples := by
  have perm : (sortByTime rest).Perm (sortByTime samples) :=
    (sortByTime_perm rest).trans (same.trans (sortByTime_perm samples).symm)
  refine perm.eq_of_pairwise ?_ (pairwise_sortByTime rest) (pairwise_sortByTime samples)
  intro a b memberA memberB first second
  have fromRest := same.subset ((sortByTime_perm rest).subset memberA)
  have fromSamples := (sortByTime_perm samples).subset memberB
  exact eq_of_time_eq distinct fromRest fromSamples
    (orderKey_injective (Int.le_antisymm first second))

/-! ## Normal form -/

theorem allRanked_sortByTime (samples : List (Sample Float)) :
    AllRanked (sortByTime (timed samples)) :=
  fun sample member => allRanked_timed samples sample ((sortByTime_perm _).subset member)

theorem pairwise_rank_sortByTime (samples : List (Sample Float)) :
    (sortByTime samples).Pairwise fun a b => rank a.time ≤ rank b.time :=
  (pairwise_sortByTime samples).imp rank_le_of_orderKey_le

/-- Samples that are in order already are treated like all others. -/
theorem normalize_eq (samples : List (Sample Float)) :
    normalize samples = firstOfEachTime (sortByTime (timed samples)) := by
  unfold normalize
  split
  next ordered =>
    have increasing := (isOrdered_iff (allRanked_timed samples)).mp ordered
    rw [sortByTime_of_increasing increasing, firstOfEachTime_of_increasing increasing]
  next => rfl

theorem pairwise_rank_normalize (samples : List (Sample Float)) :
    (normalize samples).Pairwise fun a b => rank a.time < rank b.time := by
  rw [normalize_eq]
  exact pairwise_firstOfEachTime (allRanked_sortByTime samples) (pairwise_rank_sortByTime _)

theorem mem_normalize_iff_earliestAt :
    sample ∈ normalize samples ↔
      earliestAt (sortByTime (timed samples)) sample.time = some sample := by
  rw [normalize_eq]
  exact mem_firstOfEachTime_iff (allRanked_sortByTime samples) (pairwise_rank_sortByTime _)

/-- Every sample that is left is a recorded one with a finite time. -/
theorem mem_timed_of_mem_normalize (member : sample ∈ normalize samples) :
    sample ∈ timed samples :=
  (sortByTime_perm _).subset (mem_of_earliestAt (mem_normalize_iff_earliestAt.mp member))

/-- Of sorted samples the earliest of a time is also the earliest of exactly that time, and has the
smallest key among those that equal it. -/
theorem earliestAt_sorted_iff (ranked : AllRanked samples)
    (sorted : samples.Pairwise fun a b => orderKey a.time ≤ orderKey b.time)
    (rankedTime : HasRank sample.time) :
    earliestAt samples sample.time = some sample ↔
      earliestExactlyAt samples sample.time = some sample ∧
        ∀ other ∈ samples, other.time == sample.time →
          orderKey sample.time ≤ orderKey other.time := by
  have itself := (beq_iff_of_ranked rankedTime rankedTime).mpr rfl
  unfold earliestAt earliestExactlyAt
  rw [List.find?_eq_some_iff_append, List.find?_eq_some_iff_append]
  constructor
  · rintro ⟨-, before, after, rfl, others⟩
    have different : ∀ other ∈ before, ¬ other.time == sample.time := by
      simpa using others
    refine ⟨⟨decide_eq_true rfl, before, after, rfl, fun other member => ?_⟩, ?_⟩
    · rw [Bool.not_eq_true', decide_eq_false_iff_not]
      intro same
      rw [← same] at itself
      exact different other member (same ▸ itself)
    · intro other member same
      rcases List.mem_append.mp member with earlier | member
      · exact absurd same (different other earlier)
      · rcases List.mem_cons.mp member with rfl | later
        · exact Int.le_refl _
        · have fromSample := (List.pairwise_append.mp sorted).2.1
          exact (List.pairwise_cons.mp fromSample).1 other later
  · rintro ⟨⟨-, before, after, rfl, others⟩, least⟩
    refine ⟨itself, before, after, rfl, fun other member => ?_⟩
    rw [Bool.not_eq_true', Bool.eq_false_iff]
    intro same
    have notLater := (List.pairwise_append.mp sorted).2.2 other member sample List.mem_cons_self
    have notEarlier := least other (List.mem_append_left _ member) same
    have sameTime := orderKey_injective (Int.le_antisymm notLater notEarlier)
    have different := others other member
    rw [Bool.not_eq_true', decide_eq_false_iff_not] at different
    exact different sameTime

/-- A sample is left exactly if it is the earliest of those of exactly its time, and none that
equals it in time has a smaller key. -/
theorem mem_normalize_iff (finite : sample.time.isFinite) :
    sample ∈ normalize samples ↔
      earliestExactlyAt samples sample.time = some sample ∧
        ∀ other ∈ timed samples, other.time == sample.time →
          orderKey sample.time ≤ orderKey other.time := by
  rw [mem_normalize_iff_earliestAt, earliestAt_sorted_iff (allRanked_sortByTime samples)
    (pairwise_sortByTime _) (Machine.hasRank_of_isFinite finite), earliestExactlyAt_sortByTime,
    earliestExactlyAt_timed finite]
  simp only [(sortByTime_perm (timed samples)).mem_iff]

theorem earliestAt_congr {other : Float} (same : time == other) :
    earliestAt samples time = earliestAt samples other := by
  obtain ⟨ranked, sameRank⟩ := Machine.beq_iff.mp same
  refine congrArg (List.find? · samples) (funext fun sample => ?_)
  rw [Bool.eq_iff_iff, Machine.beq_iff, Machine.beq_iff, sameRank]
  simp only [ranked.1, ranked.2]

/-- Every recorded time that is finite is left once. -/
theorem exists_mem_normalize (member : sample ∈ timed samples) :
    ∃ left ∈ normalize samples, sample.time == left.time := by
  have ranked := allRanked_timed samples sample member
  have sorted := (sortByTime_perm (timed samples)).mem_iff.mpr member
  cases found : earliestAt (sortByTime (timed samples)) sample.time with
  | none =>
      have itself := (beq_iff_of_ranked ranked ranked).mpr rfl
      exact absurd itself (List.find?_eq_none.mp found sample sorted)
  | some left =>
      have same := beq_of_earliestAt found
      refine ⟨left, mem_normalize_iff_earliestAt.mpr ?_, ?_⟩
      · rw [earliestAt_congr same]
        exact found
      · rw [Machine.beq_iff] at same ⊢
        exact ⟨⟨same.1.2, same.1.1⟩, same.2.symm⟩

end JunctionReplay.Trajectory
