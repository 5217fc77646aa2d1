import BenchCharts.Proofs.Number.Size
import BenchCharts.Proofs.Plot.Charts
import BenchCharts.Proofs.Text.ByteOrder

namespace BenchCharts

-- Pattern of a mean. An undefined one carries a sign that is lost in a float: infinities that cancel
-- out leave it set, and without any value it is not.
def Stats.bits (s : Stats) : Nat :=
  if s.mean.isNaN && s.count != 0 then Number.pow2 63 + Number.undefined.toBits.toNat else s.mean.toBits.toNat

namespace Bar

variable {a b : Bar} {bars others : List Bar}

structure Precedes (a b : Bar) : Prop where
  defined : a.stats.mean.isNaN = true → b.stats.mean.isNaN = true
  descending : a.stats.mean.isNaN = false → b.stats.mean.isNaN = false → Number.TotalLe b.stats.mean a.stats.mean
  unsigned : a.stats.mean.isNaN = true → a.stats.count ≠ 0 → b.stats.count ≠ 0
  labels : a.stats.bits = b.stats.bits → Text.Utf8.encode a.label < Text.Utf8.encode b.label

theorem rank_undefined (undefined : a.stats.mean.isNaN = true) :
    a.stats.rank = if a.stats.count = 0 then 1 else 0 := by
  simp only [Stats.rank, undefined, if_true]

theorem rank_defined (defined : a.stats.mean.isNaN = false) : a.stats.rank = Number.orderKey a.stats.mean + 2 := by
  simp only [Stats.rank, defined]
  rfl

theorem bits_undefined (undefined : a.stats.mean.isNaN = true) :
    a.stats.bits = if a.stats.count = 0 then Number.undefined.toBits.toNat
      else Number.pow2 63 + Number.undefined.toBits.toNat := by
  by_cases none : a.stats.count = 0
  · simp [Stats.bits, none, Number.eq_undefined undefined]
  · simp only [Stats.bits, undefined]
    simp [none]

theorem bits_defined (defined : a.stats.mean.isNaN = false) : a.stats.bits = a.stats.mean.toBits.toNat := by
  simp only [Stats.bits, defined]
  rfl

-- No mean that is a number has the pattern of one that is not.
theorem bits_apart (one : a.stats.mean.isNaN = true) (two : b.stats.mean.isNaN = false) :
    a.stats.bits ≠ b.stats.bits := by
  have number : Number.size b.stats.mean ≤ Number.infinityBits := by
    rw [Bool.eq_false_iff, ne_eq, Number.isNaN_iff] at two
    omega
  intro same
  rw [bits_defined two, bits_undefined one] at same
  rw [Number.size, ← same] at number
  split at number <;> exact absurd number (by decide +kernel)

theorem rank_apart (one : a.stats.mean.isNaN = true) (two : b.stats.mean.isNaN = false) :
    a.stats.rank < b.stats.rank := by
  rw [rank_undefined one, rank_defined two]
  split <;> omega

theorem rank_eq_iff : a.stats.rank = b.stats.rank ↔ a.stats.bits = b.stats.bits := by
  cases one : a.stats.mean.isNaN with
  | false =>
    cases two : b.stats.mean.isNaN with
    | false =>
      rw [rank_defined one, rank_defined two, bits_defined one, bits_defined two]
      constructor
      · intro same
        rw [Number.orderKey_injective (Nat.add_right_cancel same)]
      · intro same
        simp only [Number.orderKey, same]
    | true =>
      have ranks := (rank_apart two one).ne'
      have patterns := (bits_apart two one).symm
      simp [ranks, patterns]
  | true =>
    cases two : b.stats.mean.isNaN with
    | false =>
      have ranks := (rank_apart one two).ne
      have patterns := bits_apart one two
      simp [ranks, patterns]
    | true =>
      have signed : Number.pow2 63 ≠ 0 := by decide +kernel
      rw [rank_undefined one, rank_undefined two, bits_undefined one, bits_undefined two]
      by_cases none : a.stats.count = 0 <;> by_cases less : b.stats.count = 0 <;> simp [none, less, signed]

theorem rank_le_iff : b.stats.rank ≤ a.stats.rank ↔
    (a.stats.mean.isNaN = true → b.stats.mean.isNaN = true) ∧
    (a.stats.mean.isNaN = false → b.stats.mean.isNaN = false → Number.TotalLe b.stats.mean a.stats.mean) ∧
    (a.stats.mean.isNaN = true → a.stats.count ≠ 0 → b.stats.count ≠ 0) := by
  cases one : a.stats.mean.isNaN with
  | false =>
    cases two : b.stats.mean.isNaN with
    | false => simp [rank_defined one, rank_defined two, Number.totalLe_iff two one]
    | true =>
      rw [rank_defined one, rank_undefined two]
      split <;> simp
  | true =>
    cases two : b.stats.mean.isNaN with
    | false =>
      rw [rank_undefined one, rank_defined two]
      split <;> simp
    | true =>
      rw [rank_undefined one, rank_undefined two]
      by_cases none : a.stats.count = 0 <;> by_cases less : b.stats.count = 0 <;> simp [none, less]

theorem precedes_iff : Precedes a b ↔
    b.stats.rank ≤ a.stats.rank ∧ (a.stats.rank = b.stats.rank → a.label < b.label) := by
  rw [rank_le_iff, rank_eq_iff, ← Text.Utf8.encode_lt]
  exact ⟨fun ⟨defined, descending, unsigned, labels⟩ => ⟨⟨defined, descending, unsigned⟩, labels⟩,
    fun ⟨⟨defined, descending, unsigned⟩, labels⟩ => ⟨defined, descending, unsigned, labels⟩⟩

def key (b : Bar) : String × Nat := (b.label, b.stats.bits)

theorem Precedes.asymm {c d : Bar} (first : Precedes a b) (second : Precedes c d) (left : a.key = d.key)
    (right : b.key = c.key) : False := by
  obtain ⟨order, labels⟩ := precedes_iff.mp first
  obtain ⟨order', labels'⟩ := precedes_iff.mp second
  have one : a.stats.rank = d.stats.rank := rank_eq_iff.mpr (congrArg Prod.snd left)
  have two : b.stats.rank = c.stats.rank := rank_eq_iff.mpr (congrArg Prod.snd right)
  have names : a.label = d.label := congrArg Prod.fst left
  have names' : b.label = c.label := congrArg Prod.fst right
  have less := labels (by omega)
  have more := labels' (by omega)
  rw [names, names'] at less
  exact String.lt_asymm less more

def KeyOrder (k l : String × Nat) : Prop := ∃ a b : Bar, a.key = k ∧ b.key = l ∧ Precedes a b

theorem keys_ordered (sorted : bars.Pairwise Precedes) : (bars.map key).Pairwise KeyOrder :=
  List.pairwise_map.mpr (sorted.imp fun {a b} first => ⟨a, b, rfl, rfl, first⟩)

theorem order_unique (same : (others.map key).Perm (bars.map key)) (one : others.Pairwise Precedes)
    (two : bars.Pairwise Precedes) : others.map key = bars.map key := by
  refine List.Perm.eq_of_pairwise ?_ (keys_ordered one) (keys_ordered two) same
  rintro k l _ _ ⟨a, b, rfl, rfl, first⟩ ⟨c, d, right, left, second⟩
  exact (first.asymm second left.symm right.symm).elim

end Bar

section Sorting

variable {α : Type} (rank : α → Nat) (xs : List α)

theorem descending_trans (a b c : α) (first : decide (rank b ≤ rank a) = true)
    (second : decide (rank c ≤ rank b) = true) : decide (rank c ≤ rank a) = true := by
  simp only [decide_eq_true_eq] at *
  omega

theorem descending_total (a b : α) : (decide (rank b ≤ rank a) || decide (rank a ≤ rank b)) = true := by
  simpa using Nat.le_total (rank b) (rank a)

theorem sorted_descending : (xs.mergeSort fun a b => rank b ≤ rank a).Pairwise fun a b => rank b ≤ rank a := by
  simpa using List.pairwise_mergeSort (descending_trans rank) (descending_total rank) xs

theorem sorted_stable (r : Nat) :
    (xs.mergeSort fun a b => rank b ≤ rank a).filter (rank · == r) = xs.filter (rank · == r) := by
  have equal : (xs.filter (rank · == r)).Pairwise fun a b => decide (rank b ≤ rank a) = true := by
    apply List.pairwise_of_forall_mem_list
    intro a one b two
    simp only [List.mem_filter, beq_iff_eq] at one two
    simp [one.2, two.2]
  have kept := List.sublist_mergeSort (descending_trans rank) (descending_total rank) equal List.filter_sublist
  have inside := kept.filter (rank · == r)
  rw [List.filter_filter] at inside
  simp only [Bool.and_self] at inside
  exact (inside.eq_of_length ((List.mergeSort_perm xs _).filter _).length_eq.symm).symm

end Sorting

theorem Bar.sorted_precedes {bars : List Bar} (ascending : bars.Pairwise fun a b => a.label < b.label) :
    (bars.mergeSort fun a b => b.stats.rank ≤ a.stats.rank).Pairwise Precedes := by
  have order := sorted_descending (·.stats.rank) bars
  rw [List.pairwise_iff_forall_sublist] at *
  intro a b pair
  refine precedes_iff.mpr ⟨order pair, ?_⟩
  intro same
  have tied := pair.filter (·.stats.rank == b.stats.rank)
  rw [sorted_stable (·.stats.rank) bars] at tied
  simp only [same, List.filter_cons, beq_self_eq_true, if_true, List.filter_nil] at tied
  exact ascending (tied.trans List.filter_sublist)

namespace Aggregation

variable {a : Aggregation} {t : Table} {s : Summary} {metric : String} {bars : List Bar} {bar : Bar}

theorem summary_metrics (ran : a.summarise t = .ok s) : s.metrics = a.metrics := by
  obtain ⟨g, _, rfl⟩ := summarise_ok ran
  rfl

theorem labels_unique (ran : a.summarise t = .ok s) : s.labels.Nodup :=
  (labels_ascending ran).imp fun less same => by simp [same] at less

def groupBars (s : Summary) (i : Nat) : List Bar := s.groups.map fun entry => ⟨entry.1, entry.2.getD i (.ofValues [])⟩

theorem ranked_ok : s.ranked metric = .ok bars ↔ ∃ i, s.metrics.idxOf? metric = some i ∧
    bars = (groupBars s i).mergeSort fun a b => b.stats.rank ≤ a.stats.rank := by
  unfold Summary.ranked groupBars
  cases s.metrics.idxOf? metric with
  | none => simp
  | some i =>
    simp only [Except.ok.injEq, Option.some.injEq, exists_eq_left']
    exact eq_comm

theorem ranked_total (ran : a.summarise t = .ok s) (configured : metric ∈ a.metrics) :
    ∃ bars, s.ranked metric = .ok bars := by
  rw [← summary_metrics ran] at configured
  obtain ⟨i, index⟩ := Option.isSome_iff_exists.mp (List.isSome_idxOf?.mpr configured)
  exact ⟨_, ranked_ok.mpr ⟨i, index, rfl⟩⟩

theorem ranked_absent (ran : a.summarise t = .ok s) (absent : metric ∉ a.metrics) :
    s.ranked metric = .error (.missingColumn metric) := by
  rw [← summary_metrics ran] at absent
  have index : s.metrics.idxOf? metric = none := by simpa using absent
  simp [Summary.ranked, index]

-- A group has statistics for every metric, so no bar falls back to those of no values.
theorem bar_stats (ran : a.summarise t = .ok s) (ranked : s.ranked metric = .ok bars) (member : bar ∈ bars) :
    s.get? bar.label metric = some bar.stats := by
  obtain ⟨i, index, rfl⟩ := ranked_ok.mp ranked
  rw [List.mem_mergeSort] at member
  obtain ⟨⟨label, stats⟩, entry, rfl⟩ := List.mem_map.mp member
  have listed : label ∈ s.labels := List.mem_map.mpr ⟨_, entry, rfl⟩
  have configured : metric ∈ a.metrics := by
    rw [← summary_metrics ran]
    exact List.isSome_idxOf?.mp (by simp [index])
  have given := (get_isSome ran label metric).mpr ⟨listed, configured⟩
  have read : s.get? label metric = stats[i]? := by
    simp [Summary.get?, index, find_entry (labels_unique ran) entry]
  rw [read] at given ⊢
  obtain ⟨value, found⟩ := Option.isSome_iff_exists.mp given
  simp [found]

theorem ranked_precedes (ran : a.summarise t = .ok s) (ranked : s.ranked metric = .ok bars) :
    bars.Pairwise Bar.Precedes := by
  obtain ⟨i, _, rfl⟩ := ranked_ok.mp ranked
  apply Bar.sorted_precedes
  have ascending := labels_ascending ran
  rw [Summary.labels, List.pairwise_map] at ascending
  exact List.pairwise_map.mpr ascending

theorem ranked_by_mean (ran : a.summarise t = .ok s) :
    (∀ metric ∈ a.metrics, ∃ bars, s.ranked metric = .ok bars ∧
      (bars.map (·.label)).Perm s.labels ∧ (bars.map (·.label)).Nodup ∧
      (∀ bar ∈ bars, s.get? bar.label metric = some bar.stats) ∧
      bars.Pairwise Bar.Precedes ∧
      (∀ others : List Bar, (others.map Bar.key).Perm (bars.map Bar.key) → others.Pairwise Bar.Precedes →
        others.map (·.label) = bars.map (·.label)) ∧
      ∀ g order, a.group t = .ok g → order.Perm g.rows →
        Summary.ranked ⟨a.metrics, collect g.columns order⟩ metric = .ok bars) ∧
    ∀ metric ∉ a.metrics, s.ranked metric = .error (.missingColumn metric) := by
  refine ⟨?_, fun metric => ranked_absent ran⟩
  intro metric configured
  obtain ⟨bars, ranked⟩ := ranked_total ran configured
  have labels := Summary.ranked_labels ranked
  have order := ranked_precedes ran ranked
  refine ⟨bars, ranked, labels, labels.nodup_iff.mpr (labels_unique ran), fun bar => bar_stats ran ranked, order, ?_, ?_⟩
  · intro others same sorted
    have keys := congrArg (List.map Prod.fst) (Bar.order_unique same sorted order)
    rw [List.map_map, List.map_map] at keys
    exact keys
  · intro g order grouped shuffled
    have same : (⟨a.metrics, collect g.columns order⟩ : Summary) = s := by
      rw [← groups_any_order ran grouped shuffled, ← summary_metrics ran]
    rw [same]
    exact ranked

-- Ties, both zeros, both infinities, a group without values and one whose infinities cancel out.
def mixedTable : Table where
  columns := [⟨"name", .text ["x", "w", "v", "u", "b", "a", "n", "m", "x"]⟩,
    ⟨"ms", .numeric [Number.ofSize false Number.infinityBits, Number.undefined, -0.0, 0.0, 2.0, 2.0,
      Number.ofSize true Number.infinityBits, Number.ofSize false Number.infinityBits,
      Number.ofSize true Number.infinityBits]⟩]
  rows := 9
  aligned := by simp [Cells.length]

def mixedAggregation : Aggregation := of "name" ["ms"]

theorem ranked_by_mean_mixed : ∃ s bars, mixedAggregation.summarise mixedTable = .ok s ∧
    s.ranked "ms" = .ok bars ∧ bars.Pairwise Bar.Precedes ∧
    (∃ bar ∈ bars, bar.label = "x" ∧ s.get? "x" "ms" = some bar.stats) ∧
    s.ranked "name" = .error (.missingColumn "name") := by
  have checked : mixedAggregation.check mixedTable = .ok () := by
    refine check_ok.mpr ⟨⟨_, rfl⟩, ?_⟩
    intro metric member
    have same : metric = "ms" := by simpa [mixedAggregation, of] using member
    exact same ▸ ⟨_, rfl⟩
  have kept : mixedAggregation.kept mixedTable = .ok mixedTable := rfl
  obtain ⟨s, ran⟩ := summarise_total checked kept
  obtain ⟨present, absent⟩ := ranked_by_mean ran
  obtain ⟨bars, ranked, labels, _, stats, order, _⟩ := present "ms" (by decide)
  have listed : "x" ∈ bars.map (·.label) :=
    labels.mem_iff.mpr ((mem_labels ran "x").mpr ⟨0, by decide +kernel, by decide +kernel⟩)
  obtain ⟨bar, member, named⟩ := List.mem_map.mp listed
  exact ⟨s, bars, ran, ranked, order, ⟨bar, member, named, named ▸ stats bar member⟩, absent "name" (by decide)⟩

end Aggregation
end BenchCharts
