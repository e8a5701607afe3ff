import StagedRuns.Proofs.Dictionary
import StagedRuns.Proofs.Result
import StagedRuns.Yaml.Value.OfDocument

/-!
What the readings of YAML nodes find. A reading that succeeds tells what node stands behind the
aliases, however many of them were followed before.
-/

namespace StagedRuns.Yaml

namespace Document

/-- The node that aliases lead to in the end. -/
inductive StandsFor (document : Document) : Node → Node → Prop where
  | link {anchor : Nat} {node target : Node} (found : document.anchored? anchor = some node)
      (stands : StandsFor document node target) : StandsFor document (.alias anchor) target
  | itself {node : Node} (written : ∀ anchor, node ≠ .alias anchor) :
      StandsFor document node node

/-- A computation gives a result, with some number of aliases that it may follow. -/
def Reads {α : Type} (document : Document) (computation : Following α) (result : α) : Prop :=
  ∃ left rest, computation document left = .ok (result, rest)

end Document

variable {α β : Type} {document : Document}

theorem standsFor_unique {node first second : Node} (left : document.StandsFor node first)
    (right : document.StandsFor node second) : first = second := by
  induction left with
  | link found _ ih =>
      cases right with
      | link again stands =>
          cases found.symm.trans again
          exact ih stands
      | itself written => exact absurd rfl (written _)
  | itself written =>
      cases right with
      | link _ _ => exact absurd rfl (written _)
      | itself _ => rfl

theorem standsFor_iff {node target other : Node} (stands : document.StandsFor node target) :
    document.StandsFor node other ↔ other = target :=
  ⟨fun again => standsFor_unique again stands, fun same => same ▸ stands⟩

theorem standsFor_alias {anchor : Nat} {node target : Node}
    (found : document.anchored? anchor = some node) :
    document.StandsFor (.alias anchor) target ↔ document.StandsFor node target := by
  constructor
  · intro stands
    cases stands with
    | link again stands =>
        cases found.symm.trans again
        exact stands
    | itself written => exact absurd rfl (written anchor)
  · exact .link found

theorem reads_bind {first : Following α} {next : α → Following β} {result : β}
    (reads : document.Reads (first >>= next) result) :
    ∃ value, document.Reads first value ∧ document.Reads (next value) result := by
  obtain ⟨left, rest, succeeded⟩ := reads
  obtain ⟨⟨value, between⟩, firstDone, nextDone⟩ := Result.bind_eq_ok.mp succeeded
  exact ⟨value, ⟨left, between, firstDone⟩, ⟨between, rest, nextDone⟩⟩

theorem reads_pure {value result : α} (reads : document.Reads (pure value) result) :
    value = result := by
  obtain ⟨left, rest, succeeded⟩ := reads
  exact congrArg Prod.fst (Except.ok.inj succeeded)

theorem reads_throw {problem : Problem} {result : α} :
    ¬ document.Reads (throw problem) result := by
  rintro ⟨left, rest, failed⟩
  cases failed

theorem reads_map {first : Following α} {change : α → β} {result : β}
    (reads : document.Reads (change <$> first) result) :
    ∃ value, document.Reads first value ∧ change value = result := by
  rw [map_eq_pure_bind] at reads
  obtain ⟨value, firstReads, last⟩ := reads_bind reads
  exact ⟨value, firstReads, reads_pure last⟩

theorem reads_mapM {each : α → Following β} {items : List α} {results : List β}
    (reads : document.Reads (items.mapM each) results) :
    List.Forall₂ (fun item result => document.Reads (each item) result) items results := by
  induction items generalizing results with
  | nil =>
      rw [List.mapM_nil] at reads
      cases reads_pure reads
      exact .nil
  | cons head tail ih =>
      rw [List.mapM_cons] at reads
      obtain ⟨first, headReads, reads⟩ := reads_bind reads
      obtain ⟨rest, tailReads, reads⟩ := reads_bind reads
      cases reads_pure reads
      exact .cons headReads (ih tailReads)

theorem reads_of_run {computation : Following α} {result : α}
    (done : document.run computation = .ok result) : document.Reads computation result := by
  obtain ⟨⟨value, rest⟩, succeeded, same⟩ := Result.bind_eq_ok.mp done
  cases same
  exact ⟨_, rest, succeeded⟩

/-- Following a node does not change what it stands for. -/
theorem reads_follow {node next : Node} (reads : document.Reads node.follow next) (target : Node) :
    document.StandsFor node target ↔ document.StandsFor next target := by
  match node, reads with
  | .alias anchor, reads =>
      obtain ⟨left, -, reads⟩ := reads_bind reads
      obtain ⟨whole, ⟨_, _, isWhole⟩, reads⟩ := reads_bind reads
      cases isWhole
      cases found : document.anchored? anchor with
      | none =>
          rw [found] at reads
          cases left <;> exact absurd reads reads_throw
      | some node =>
          rw [found] at reads
          cases left with
          | zero => exact absurd reads reads_throw
          | succ left =>
              obtain ⟨_, -, reads⟩ := reads_bind reads
              cases reads_pure reads
              exact standsFor_alias found
  | .scalar _ _ _, reads | .sequence _ _, reads | .mapping _ _, reads =>
      cases reads_pure reads
      exact Iff.rfl

theorem standsFor_of_reads {node next : Node} (reads : document.Reads node.follow next)
    (written : ∀ anchor, next ≠ .alias anchor) : document.StandsFor node next :=
  (reads_follow reads next).mpr (.itself written)

theorem reads_text {node : Node} {content : String} (reads : document.Reads node.text content) :
    ∃ tag plain, document.StandsFor node (.scalar tag plain content) := by
  obtain ⟨next, follows, reads⟩ := reads_bind reads
  match next, reads with
  | .scalar tag plain other, reads =>
      cases reads_pure reads
      exact ⟨tag, plain, standsFor_of_reads follows nofun⟩
  | .alias _, reads | .sequence _ _, reads | .mapping _ _, reads =>
      exact absurd reads reads_throw

theorem reads_missing {node : Node} {problem : Problem} {empty result : α}
    (reads : document.Reads (if node.isMissing then pure empty else throw problem) result) :
    (∃ tag, node = .scalar tag true "") ∧ result = empty := by
  split at reads
  · rename_i missing
    refine ⟨?_, (reads_pure reads).symm⟩
    unfold Node.isMissing at missing
    split at missing
    · exact ⟨_, rfl⟩
    · cases missing
  · exact absurd reads reads_throw

theorem reads_list {decode : Node → Following α} {node : Node} {values : List α}
    (reads : document.Reads (node.list decode) values) :
    (∃ tag items, document.StandsFor node (.sequence tag items) ∧
      List.Forall₂ (fun item value => document.Reads (decode item) value) items values) ∨
    ((∃ tag plain content, document.StandsFor node (.scalar tag plain content)) ∧
      values = []) := by
  obtain ⟨next, follows, reads⟩ := reads_bind reads
  match next, reads with
  | .sequence tag items, reads =>
      exact .inl ⟨tag, items, standsFor_of_reads follows nofun, reads_mapM reads⟩
  | .alias _, reads | .scalar _ _ _, reads | .mapping _ _, reads =>
      obtain ⟨⟨tag, same⟩, nothing⟩ := reads_missing reads
      exact .inr ⟨⟨tag, true, "", standsFor_of_reads (same ▸ follows) nofun⟩, nothing⟩

def Document.Names (document : Document) (entry : Node × Node) (found : String × Node) : Prop :=
  (∃ tag plain, document.StandsFor entry.1 (.scalar tag plain found.1)) ∧ entry.2 = found.2

theorem names_unique {entry : Node × Node} {first second : String × Node}
    (left : document.Names entry first) (right : document.Names entry second) :
    first = second := by
  obtain ⟨⟨_, _, stands⟩, value⟩ := left
  obtain ⟨⟨_, _, otherStands⟩, otherValue⟩ := right
  injection standsFor_unique stands otherStands with _ _ name
  exact Prod.ext name (value.symm.trans otherValue)

theorem reads_entries {node : Node} {found : List (String × Node)}
    (reads : document.Reads node.entries found) :
    (∃ tag entries, document.StandsFor node (.mapping tag entries) ∧
      List.Forall₂ document.Names entries found) ∨
    ((∃ tag plain content, document.StandsFor node (.scalar tag plain content)) ∧
      found = []) := by
  obtain ⟨next, follows, reads⟩ := reads_bind reads
  match next, reads with
  | .mapping tag entries, reads =>
      refine .inl ⟨tag, entries, standsFor_of_reads follows nofun, ?_⟩
      refine (reads_mapM reads).imp fun entry pair entryReads => ?_
      obtain ⟨name, nameReads, entryReads⟩ := reads_bind entryReads
      cases reads_pure entryReads
      exact ⟨reads_text nameReads, rfl⟩
  | .alias _, reads | .scalar _ _ _, reads | .sequence _ _, reads =>
      obtain ⟨⟨tag, same⟩, nothing⟩ := reads_missing reads
      exact .inr ⟨⟨tag, true, "", standsFor_of_reads (same ▸ follows) nofun⟩, nothing⟩

/-- The fields of a record are the entries of the mapping that have their names. -/
theorem reads_record {names : List String} {node : Node} {record : Record Node}
    (reads : document.Reads (node.record names) record) {tag : Option Tag}
    {entries : List (Node × Node)} (stands : document.StandsFor node (.mapping tag entries)) :
    (∀ entry ∈ entries, ∀ name ∈ names, document.Names entry (name, entry.2) →
      record.find? name = some entry.2) ∧
    ∀ name value, record.find? name = some value →
      ∃ entry ∈ entries, document.Names entry (name, value) := by
  obtain ⟨found, entriesRead, reads⟩ := reads_bind reads
  dsimp only at reads
  split at reads
  · rename_i distinct
    cases reads_pure reads
    rcases reads_entries entriesRead with
      ⟨otherTag, others, otherStands, pairs⟩ | ⟨⟨otherTag, plain, content, otherStands⟩, -⟩
    · cases standsFor_unique stands otherStands
      unfold Record.find?
      simp only [lookup_eq_some_iff distinct, List.mem_filter, List.contains_iff_mem]
      constructor
      · intro entry present name known named
        obtain ⟨pair, inFound, pairNamed⟩ := Result.exists_of_forall₂ pairs present
        cases names_unique named pairNamed
        exact ⟨inFound, known⟩
      · rintro name value ⟨inFound, -⟩
        exact Result.exists_of_forall₂ pairs.flip inFound
    · cases standsFor_unique stands otherStands
  · exact absurd reads reads_throw

theorem reads_nullable {decode : Node → Following α} {node : Node} {result : Option α}
    (reads : document.Reads (node.nullable decode) result) :
    ((∃ tag plain content, document.StandsFor node (.scalar tag plain content)) ∧
      result = none) ∨
    ∃ next value, result = some value ∧ document.Reads (decode next) value ∧
      ∀ target, document.StandsFor node target ↔ document.StandsFor next target := by
  obtain ⟨next, follows, reads⟩ := reads_bind reads
  have present : ∀ {result}, document.Reads (some <$> decode next) result →
      ∃ next value, result = some value ∧ document.Reads (decode next) value ∧
        ∀ target, document.StandsFor node target ↔ document.StandsFor next target := by
    intro result reads
    obtain ⟨value, valueReads, same⟩ := reads_map reads
    exact ⟨next, value, same.symm, valueReads, reads_follow follows⟩
  split at reads
  · rename_i content
    split at reads
    · refine .inl ⟨⟨none, true, content, standsFor_of_reads follows nofun⟩, ?_⟩
      exact (reads_pure reads).symm
    · exact .inr (present reads)
  · rename_i tag content
    split at reads
    · exact .inr (present reads)
    · split at reads
      · refine .inl ⟨⟨tag, true, content, standsFor_of_reads follows nofun⟩, ?_⟩
        exact (reads_pure reads).symm
      · exact absurd reads reads_throw
  · exact .inr (present reads)

theorem reads_mapping {depth : Nat} {tag : Option Tag} {entries : List (Node × Node)}
    {value : Value} (reads : document.Reads (Value.ofNode depth (.mapping tag entries)) value) :
    ∃ found, value = Value.withTag tag (.mapping found) ∧ Value.repeatsKey found = false := by
  rw [Value.ofNode] at reads
  obtain ⟨next, follows, reads⟩ := reads_bind reads
  cases reads_pure follows
  cases depth with
  | zero => exact absurd reads reads_throw
  | succ depth =>
      obtain ⟨found, -, reads⟩ := reads_bind reads
      split at reads
      · exact absurd reads reads_throw
      · rename_i distinct
        exact ⟨found, (reads_pure reads).symm, Bool.eq_false_iff.mpr distinct⟩

theorem reads_entriesOf {node : Node} {entries : List (Value × Value)}
    (reads : document.Reads (entriesOf node) entries) : Value.repeatsKey entries = false := by
  unfold entriesOf at reads
  split at reads
  · obtain ⟨value, valueRead, reads⟩ := reads_bind reads
    obtain ⟨found, rfl, distinct⟩ := reads_mapping valueRead
    cases reads_pure reads
    exact distinct
  · obtain ⟨-, rfl⟩ := reads_missing reads
    rfl

theorem distinct_of_readMapping {text : String} {entries : List (Value × Value)}
    (read : readMapping text = .ok entries) : Value.repeatsKey entries = false := by
  obtain ⟨document?, _, read⟩ := Result.bind_eq_ok.mp read
  cases document? with
  | none =>
      cases read
      rfl
  | some document =>
      obtain ⟨result, ran, same⟩ := Result.bind_eq_ok.mp read
      cases same
      rcases reads_nullable (reads_of_run ran) with ⟨-, rfl⟩ | ⟨next, value, rfl, reads, -⟩
      · rfl
      · exact reads_entriesOf reads

end StagedRuns.Yaml
