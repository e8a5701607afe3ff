import Mathlib.Data.List.Dedup
import StagedRuns.Proofs.Counters
import StagedRuns.Proofs.Counters.Exposition

/-!
The published text of the counters tells what was counted, no more and no less: as the text format
has it, it is read as one sample for each label of a metric that was counted.
-/

namespace StagedRuns

namespace Counters

open Exposition

/-! ### What is written -/

/-- Whether a label is written as it is inside quotes, on one line. -/
def isPlain (label : String) : Bool :=
  label.toList.all fun c => c ≠ '"' && c ≠ '\\' && c ≠ '\n'

def publishedLabels (metric : Metric) (label : String) : List (String × String) :=
  metric.labelName?.toList.map fun name => (name, label)

def publishedSample (metric : Metric) (label : String) (count : Nat) : Sample :=
  ⟨metric.name, publishedLabels metric label, count⟩

def publishedLines (metric : Metric) (counts : Dictionary Nat) : List Line :=
  if counts.isEmpty then []
  else
    .type metric.name "counter" ::
      counts.toList.map fun (label, count) => .value (publishedSample metric label count)

def written (metric : Metric) (label : String) (count : Nat) : List Char :=
  metric.name.toList ++
    ((metric.labelName?.elim [] fun name =>
        '\x7b' :: (name.toList ++ '=' :: '"' :: (label.toList ++ ['"', '\x7d']))) ++
      ' ' :: Nat.toDigits 10 count)

theorem toList_sample (metric : Metric) (label : String) (count : Nat) :
    (sample metric label count).toList = written metric label count ++ ['\n'] := by
  have digits : (toString count).toList = Nat.toDigits 10 count := by
    rw [Nat.toString_eq_ofList_toDigits, String.toList_ofList]
  unfold sample written
  cases metric <;> simp [Metric.labelName?]

theorem isName_name (metric : Metric) : isName metric.name.toList = true := by
  cases metric <;> decide

theorem isName_labelName {metric : Metric} {name : String}
    (labelled : metric.labelName? = some name) : isName name.toList = true := by
  cases metric <;> cases labelled <;> decide

theorem readValue?_written (count : Nat) :
    passSign? '\x7b' (' ' :: Nat.toDigits 10 count) = none ∧
      readValue? (skipGap (' ' :: Nat.toDigits 10 count)) = some count := by
  have read := readValue?_toDigits count
  obtain ⟨digit, rest, same, isDigit⟩ := Json.toDigits_begins count
  have other : ∀ sign : Char, sign.isDigit = false → digit ≠ sign := by
    rintro sign noDigit rfl
    simp [noDigit] at isDigit
  have noGap : isGap digit = false := by
    simp [isGap, other ' ' rfl, other '\t' rfl]
  have skipped : skipGap (' ' :: digit :: rest) = digit :: rest :=
    skipGap_of_head noGap rest
  rw [same] at read ⊢
  refine ⟨?_, by rw [skipped, read]⟩
  unfold passSign?
  rw [skipped]
  exact if_neg (other '\x7b' rfl)

theorem readSample?_written {metric : Metric} {label : String} (plain : isPlain label = true)
    (count : Nat) :
    readSample? (written metric label count) = some (publishedSample metric label count) := by
  obtain ⟨unopened, value⟩ := readValue?_written count
  unfold readSample? written publishedSample publishedLabels
  cases labelled : metric.labelName? with
  | none =>
      rw [Option.elim_none, List.nil_append,
        readName?_append (isName_name metric) (by simp [isNameLetter])]
      simp only [Option.bind_eq_bind, Option.bind_some, unopened, value]
      rw [String.ofList_toList]
      rfl
  | some name =>
      have plainLabel : ∀ c ∈ label.toList, c ≠ '"' ∧ c ≠ '\\' := by
        simp only [isPlain, List.all_eq_true, Bool.and_eq_true, decide_eq_true_eq] at plain
        exact fun c member => (plain c member).1
      have labels := readLabels?_append (isName_labelName labelled) plainLabel
        (' ' :: Nat.toDigits 10 count)
      rw [Option.elim_some, List.cons_append,
        readName?_append (isName_name metric) (by simp [isNameLetter])]
      simp only [Option.bind_eq_bind, Option.bind_some]
      rw [passSign?_self rfl]
      dsimp only
      rw [List.append_assoc, List.cons_append, List.cons_append, List.append_assoc,
        List.cons_append, List.singleton_append, labels]
      simp only [Option.bind_some, value, String.ofList_toList]
      rfl

theorem readLine?_written {metric : Metric} {label : String} (plain : isPlain label = true)
    (count : Nat) :
    readLine? (written metric label count) = some (.value (publishedSample metric label count)) := by
  have begun : readLine? (written metric label count) =
      (readSample? (written metric label count)).map .value := by
    obtain ⟨first, rest, same, noGap, other⟩ := exists_of_isName (isName_name metric)
    unfold readLine? written
    rw [same, List.cons_append, skipGap_of_head noGap]
    split
    · rename_i same
      exact absurd (List.cons_eq_cons.mp same).1 (other '#' rfl)
    · rfl
  rw [begun, readSample?_written plain, Option.map_some]

theorem newline_not_mem_written {metric : Metric} {label : String} (plain : isPlain label = true)
    (count : Nat) : '\n' ∉ written metric label count := by
  have noBreak : '\n' ∉ label.toList := by
    intro broken
    simpa using List.all_eq_true.mp plain '\n' broken
  have noDigit : '\n' ∉ Nat.toDigits 10 count :=
    fun broken => absurd (Json.isDigit_of_mem_toDigits _ broken) (by decide)
  unfold written
  cases metric <;> simp [Metric.name, Metric.labelName?, noBreak, noDigit]

theorem tells_type (metric : Metric) :
    Tells ("# TYPE " ++ metric.name ++ " counter\n") (.type metric.name "counter") := by
  refine ⟨("# TYPE " ++ metric.name ++ " counter").toList, ?_, ?_, ?_⟩ <;> cases metric <;> decide

theorem tells_lines {metric : Metric} {counts : Dictionary Nat}
    (plain : ∀ entry ∈ counts.toList, isPlain entry.1 = true) :
    List.Forall₂ Tells (lines metric counts) (publishedLines metric counts) := by
  unfold lines publishedLines
  split
  · exact .nil
  · refine .cons (tells_type metric) ?_
    rw [List.forall₂_map_left_iff, List.forall₂_map_right_iff, List.forall₂_same]
    intro entry member
    exact ⟨_, toList_sample metric entry.1 entry.2,
      newline_not_mem_written (plain entry member) entry.2,
      readLine?_written (plain entry member) entry.2⟩

def published (counters : Counters) : List Line :=
  Metric.all.flatMap fun metric => publishedLines metric (counters.counts metric)

/-- The text of the counters is read as what they publish. -/
theorem read?_render {counters : Counters}
    (plain : ∀ metric, ∀ entry ∈ (counters.counts metric).toList, isPlain entry.1 = true) :
    read? counters.render = some counters.published := by
  refine read?_join ?_
  unfold published
  rw [List.flatMap_def, List.flatMap_def]
  refine List.rel_flatten ?_
  rw [List.forall₂_map_left_iff, List.forall₂_map_right_iff, List.forall₂_same]
  exact fun metric _ => tells_lines (plain metric)

/-! ### What is counted -/

inductive Occurrence where
  | hook (kind : String)
  | invalidHook
  | call (operation : String)
  | failedCall (operation : String)
deriving DecidableEq, Repr

namespace Occurrence

def metric : Occurrence → Metric
  | .hook _ => .hooks
  | .invalidHook => .invalidHooks
  | .call _ => .calls
  | .failedCall _ => .failedCalls

def label : Occurrence → String
  | .hook kind => kind
  | .invalidHook => ""
  | .call operation => operation
  | .failedCall operation => operation

def key (occurrence : Occurrence) : Metric × String :=
  (occurrence.metric, occurrence.label)

end Occurrence

def count (counters : Counters) : Occurrence → Counters
  | .hook kind => counters.countHook kind
  | .invalidHook => counters.countInvalidHook
  | .call operation => counters.countCall operation
  | .failedCall operation => counters.countFailedCall operation

def after (occurrences : List Occurrence) : Counters :=
  occurrences.foldl count zero

theorem count_eq (counters : Counters) (occurrence : Occurrence) :
    counters.count occurrence = counters.increment occurrence.metric occurrence.label := by
  cases occurrence <;> rfl

theorem get_foldl_count (occurrences : List Occurrence) (counters : Counters) (metric : Metric)
    (label : String) :
    (occurrences.foldl count counters).get metric label =
      counters.get metric label + (occurrences.map Occurrence.key).count (metric, label) := by
  induction occurrences generalizing counters with
  | nil => rfl
  | cons occurrence rest ih =>
      have same : occurrence.key = (metric, label) ↔
          metric = occurrence.metric ∧ label = occurrence.label := by
        rw [Occurrence.key, Prod.mk.injEq, eq_comm, @eq_comm _ label]
      rw [List.foldl_cons, ih, count_eq, get_increment, List.map_cons, List.count_cons]
      simp only [beq_iff_eq, same]
      omega

theorem get_after (occurrences : List Occurrence) (metric : Metric) (label : String) :
    (after occurrences).get metric label =
      (occurrences.map Occurrence.key).count (metric, label) := by
  rw [after, get_foldl_count, get_zero, Nat.zero_add]

theorem get?_foldl_count_ne_zero (occurrences : List Occurrence) {counters : Counters}
    (positive : ∀ metric label, (counters.counts metric).get? label ≠ some 0) (metric : Metric)
    (label : String) :
    ((occurrences.foldl count counters).counts metric).get? label ≠ some 0 := by
  induction occurrences generalizing counters with
  | nil => exact positive metric label
  | cons occurrence rest ih =>
      rw [List.foldl_cons, count_eq]
      refine ih fun metric label => ?_
      unfold increment
      dsimp only
      split
      · rw [Dictionary.get?_insert]
        split
        · simp
        · exact positive _ label
      · exact positive metric label

/-- What is not there was not counted. -/
theorem get?_after (occurrences : List Occurrence) (metric : Metric) (label : String) :
    ((after occurrences).counts metric).get? label =
      if (metric, label) ∈ occurrences.map Occurrence.key then
        some ((after occurrences).get metric label)
      else none := by
  have initially : ∀ metric label, (zero.counts metric).get? label ≠ some 0 :=
    fun _ _ => nofun
  have positive : ((after occurrences).counts metric).get? label ≠ some 0 :=
    get?_foldl_count_ne_zero occurrences initially metric label
  have present : (metric, label) ∈ occurrences.map Occurrence.key ↔
      0 < (after occurrences).get metric label := by
    rw [get_after, List.count_pos_iff]
  simp only [present]
  unfold get
  cases found : ((after occurrences).counts metric).get? label with
  | none => rfl
  | some n =>
      have notZero : n ≠ 0 := by
        rintro rfl
        exact positive found
      exact (if_pos (Nat.pos_of_ne_zero notZero)).symm

theorem after_eq_of_perm {occurrences others : List Occurrence}
    (order : occurrences.Perm others) : after occurrences = after others := by
  have same (metric : Metric) :
      (after occurrences).counts metric = (after others).counts metric := by
    refine Dictionary.eq_of_get? fun label => ?_
    have keys := order.map Occurrence.key
    rw [get?_after, get?_after, get_after, get_after, keys.count_eq]
    simp only [keys.mem_iff]
  cases left : after occurrences
  cases right : after others
  rw [left, right] at same
  exact congrArg Counters.mk (funext same)

theorem mem_counts_after {occurrences : List Occurrence} {metric : Metric} {entry : String × Nat} :
    entry ∈ ((after occurrences).counts metric).toList ↔
      (metric, entry.1) ∈ occurrences.map Occurrence.key ∧
        entry.2 = (after occurrences).get metric entry.1 := by
  obtain ⟨label, n⟩ := entry
  rw [Dictionary.mem_toList, get?_after]
  simp only [Option.ite_none_right_eq_some, Option.some_inj]
  exact and_congr_right fun _ => eq_comm

/-! ### What is published is what was counted -/

def samples (lines : List Line) : List Sample :=
  lines.filterMap Line.sample?

/-- Where something was counted: the metrics in their order, the labels of each in theirs. -/
def keys (counters : Counters) : List (Metric × String) :=
  Metric.all.flatMap fun metric => (counters.counts metric).toList.map fun entry => (metric, entry.1)

theorem counted_mem_counts_after {occurrences : List Occurrence} {key : Metric × String}
    (counted : key ∈ occurrences.map Occurrence.key) :
    (key.2, (after occurrences).get key.1 key.2) ∈ ((after occurrences).counts key.1).toList :=
  mem_counts_after.mpr ⟨counted, rfl⟩

theorem mem_all (metric : Metric) : metric ∈ Metric.all := by
  cases metric <;> decide

theorem mem_keys_after {occurrences : List Occurrence} {key : Metric × String} :
    key ∈ (after occurrences).keys ↔ key ∈ occurrences.map Occurrence.key := by
  unfold keys
  rw [List.mem_flatMap]
  constructor
  · rintro ⟨metric, _, member⟩
    obtain ⟨entry, present, rfl⟩ := List.mem_map.mp member
    exact (mem_counts_after.mp present).1
  · intro counted
    exact ⟨key.1, mem_all key.1,
      List.mem_map.mpr ⟨_, counted_mem_counts_after counted, rfl⟩⟩

theorem keys_nodup (counters : Counters) : counters.keys.Nodup := by
  have distinct : Metric.all.Nodup := by decide
  refine List.nodup_flatMap.mpr ⟨fun metric _ => ?_, distinct.imp fun different => ?_⟩
  · have labels := (counters.counts metric).increases.nodup
    exact List.Nodup.of_map Prod.snd (by rw [List.map_map]; exact labels)
  · intro key inFirst inSecond
    obtain ⟨_, _, rfl⟩ := List.mem_map.mp inFirst
    obtain ⟨_, _, same⟩ := List.mem_map.mp inSecond
    exact different (congrArg Prod.fst same).symm

/-- A counter is published as its only sample, and no sample is published of anything else. -/
theorem samples_perm (occurrences : List Occurrence) :
    (samples (after occurrences).published).Perm
      ((occurrences.map Occurrence.key).dedup.map fun key =>
        publishedSample key.1 key.2 ((after occurrences).get key.1 key.2)) := by
  have each (metric : Metric) :
      samples (publishedLines metric ((after occurrences).counts metric)) =
        (((after occurrences).counts metric).toList.map fun entry => (metric, entry.1)).map fun key =>
          publishedSample key.1 key.2 ((after occurrences).get key.1 key.2) := by
    unfold samples publishedLines
    rw [List.map_map]
    split
    · rename_i none
      rw [Dictionary.isEmpty, List.isEmpty_iff] at none
      rw [Dictionary.toList, none]
      rfl
    · rw [List.filterMap_cons_none rfl, List.filterMap_map, ← List.filterMap_eq_map]
      refine List.filterMap_congr fun entry present => ?_
      simp [Line.sample?, (mem_counts_after.mp present).2]
  have all : samples (after occurrences).published =
      (after occurrences).keys.map fun key =>
        publishedSample key.1 key.2 ((after occurrences).get key.1 key.2) := by
    unfold samples published keys
    rw [List.filterMap_flatMap, List.map_flatMap]
    exact List.flatMap_congr fun metric _ => each metric
  have order : (after occurrences).keys.Perm (occurrences.map Occurrence.key).dedup := by
    refine (List.perm_ext_iff_of_nodup (keys_nodup _) (List.nodup_dedup _)).mpr fun key => ?_
    rw [mem_keys_after, List.mem_dedup]
  rw [all]
  exact order.map _

theorem name_injective {metric other : Metric} (same : metric.name = other.name) :
    metric = other := by
  cases metric <;> cases other <;> first | rfl | exact absurd same (by decide)

theorem metric_of_mem_publishedLines {metric : Metric} {counts : Dictionary Nat} {line : Line}
    (member : line ∈ publishedLines metric counts) : line.metric = metric.name := by
  unfold publishedLines at member
  split at member
  · cases member
  · rcases List.mem_cons.mp member with rfl | member
    · rfl
    · obtain ⟨entry, _, rfl⟩ := List.mem_map.mp member
      rfl

/-- Whether a metric has one line with its type, and after it all its samples. -/
def IsHeaded (lines : List Line) (metric : Metric) : Prop :=
  ∃ before samples behind,
    lines = before ++ .type metric.name "counter" :: (samples.map .value ++ behind) ∧
      samples ≠ [] ∧ (∀ sample ∈ samples, sample.metric = metric.name) ∧
      ∀ line ∈ before ++ behind, line.metric ≠ metric.name

theorem isHeaded_published {counters : Counters} {metric : Metric}
    (counted : (counters.counts metric).isEmpty = false) :
    IsHeaded counters.published metric := by
  obtain ⟨before, behind, all⟩ := List.append_of_mem (mem_all metric)
  have distinct : Metric.all.Nodup := by decide
  rw [all, List.nodup_middle, List.nodup_cons] at distinct
  refine ⟨before.flatMap fun metric => publishedLines metric (counters.counts metric),
    (counters.counts metric).toList.map fun entry => publishedSample metric entry.1 entry.2,
    behind.flatMap fun metric => publishedLines metric (counters.counts metric), ?_, ?_, ?_, ?_⟩
  · unfold published
    rw [all, List.flatMap_append, List.flatMap_cons, publishedLines, counted, List.map_map]
    rfl
  · intro none
    rw [List.map_eq_nil_iff] at none
    rw [Dictionary.isEmpty, List.isEmpty_eq_false_iff] at counted
    exact counted none
  · intro sample member
    obtain ⟨entry, _, rfl⟩ := List.mem_map.mp member
    rfl
  · intro line member
    rw [← List.flatMap_append] at member
    obtain ⟨other, listed, member⟩ := List.mem_flatMap.mp member
    rw [metric_of_mem_publishedLines member]
    intro same
    exact distinct.1 (name_injective same ▸ listed)

theorem isEmpty_counts_after (occurrences : List Occurrence) (metric : Metric) :
    ((after occurrences).counts metric).isEmpty = false ↔
      ∃ occurrence ∈ occurrences, occurrence.metric = metric := by
  rw [Dictionary.isEmpty, List.isEmpty_eq_false_iff_exists_mem]
  constructor
  · rintro ⟨entry, present⟩
    obtain ⟨occurrence, occurred, same⟩ := List.mem_map.mp (mem_counts_after.mp present).1
    exact ⟨occurrence, occurred, congrArg Prod.fst same⟩
  · rintro ⟨occurrence, occurred, rfl⟩
    exact ⟨_, counted_mem_counts_after (List.mem_map_of_mem occurred)⟩

/-- The text is read as one sample for each label of a metric that was counted, with the number of
times that it was, below the only line with the type of its metric, and as nothing else. It does not
tell in which order things were counted. -/
theorem render_tells {occurrences : List Occurrence}
    (plain : ∀ occurrence ∈ occurrences, isPlain occurrence.label = true) :
    (∃ lines, read? (after occurrences).render = some lines ∧
      (samples lines).Perm
        ((occurrences.map Occurrence.key).dedup.map fun key =>
          publishedSample key.1 key.2 ((after occurrences).get key.1 key.2)) ∧
      (∀ occurrence ∈ occurrences, IsHeaded lines occurrence.metric) ∧
      ∀ line ∈ lines, ∃ occurrence ∈ occurrences, line.metric = occurrence.metric.name) ∧
    (∀ metric label, (after occurrences).get metric label =
      (occurrences.map Occurrence.key).count (metric, label)) ∧
    ∀ others, occurrences.Perm others →
      (after others).render = (after occurrences).render := by
  have plainCounts (metric : Metric) (entry : String × Nat)
      (present : entry ∈ ((after occurrences).counts metric).toList) : isPlain entry.1 = true := by
    obtain ⟨occurrence, occurred, same⟩ := List.mem_map.mp (mem_counts_after.mp present).1
    have label : occurrence.label = entry.1 := congrArg Prod.snd same
    exact label ▸ plain occurrence occurred
  refine ⟨⟨(after occurrences).published, read?_render plainCounts, samples_perm occurrences,
    ?_, ?_⟩, get_after occurrences, ?_⟩
  · intro occurrence occurred
    exact isHeaded_published
      ((isEmpty_counts_after occurrences _).mpr ⟨occurrence, occurred, rfl⟩)
  · intro line member
    obtain ⟨metric, _, listed⟩ := List.mem_flatMap.mp member
    have counted : ((after occurrences).counts metric).isEmpty = false := by
      rw [Bool.eq_false_iff]
      intro none
      rw [publishedLines, if_pos none] at listed
      cases listed
    obtain ⟨occurrence, occurred, rfl⟩ := (isEmpty_counts_after occurrences metric).mp counted
    exact ⟨occurrence, occurred, metric_of_mem_publishedLines listed⟩
  · intro others order
    rw [after_eq_of_perm order]

/-- Two hooks of one kind, an invalid one and a call. -/
theorem render_tells_hooks :
    (∃ lines, read? (after [.hook "push", .invalidHook, .call "file", .hook "push"]).render =
        some lines ∧
      (samples lines).Perm
        [⟨"hooks_total", [("kind", "push")], 2⟩, ⟨"hooks_invalid", [], 1⟩,
          ⟨"api_calls_total", [("name", "file")], 1⟩]) := by
  obtain ⟨⟨lines, read, told, -⟩, -⟩ := render_tells
    (show ∀ occurrence ∈ [Occurrence.hook "push", .invalidHook, .call "file", .hook "push"],
      isPlain occurrence.label = true by decide)
  exact ⟨lines, read, told.trans (by decide)⟩

end Counters

end StagedRuns
