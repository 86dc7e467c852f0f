import FormQuery.Proofs.DistinctItems
import FormQuery.Proofs.ExactNumbers
import FormQuery.Proofs.Runs
import FormQuery.Sample.Projection
import Mathlib.Data.List.Basic
import Mathlib.Data.List.Induction

/-! Keys of groups. Cells make one group when they are the same key: both missing, the same text, the same octets, or
the same number. So the rows of a sample make as many groups as they have different rows of keys. -/

namespace FormQuery.Group

/-- What a cell is as the key of a group. Numbers of all kinds make one group when they are the same number. -/
inductive Key where
  | missing
  | text (content : String)
  | octets (content : List UInt8)
  | number (value : ℚ)
  | infinite (negative : Bool)
  deriving DecidableEq

namespace Key

def ofDecimal : Decimal → Key
  | .finite negative coefficient exponent => number (Decimal.scaled (Decimal.signed negative coefficient) exponent)
  | .infinite negative => infinite negative
  | .missing .. => missing

def ofCell (cell : Value) : Key :=
  if cell.isMissing then missing
  else
    match cell with
    | .text content => text content
    | .bytes content => octets content
    | cell => (cell.exactNumber?.map ofDecimal).getD missing

theorem compare?_eq_iff {left right : Decimal} (known : ofDecimal left ≠ missing) :
    left.compare? right = some .eq ↔ ofDecimal left = ofDecimal right := by
  cases left with
  | missing negative signaling payload => exact absurd rfl known
  | infinite negative =>
    cases right with
    | missing => simp [Decimal.compare?, ofDecimal]
    | infinite other => cases negative <;> cases other <;> simp [Decimal.compare?, ofDecimal]
    | finite other coefficient exponent => cases negative <;> simp [Decimal.compare?, ofDecimal]
  | finite negative coefficient exponent =>
    cases right with
    | missing => simp [Decimal.compare?, ofDecimal]
    | infinite other => cases other <;> simp [Decimal.compare?, ofDecimal]
    | finite other coefficient exponent => simp [Decimal.compare?, ofDecimal, Decimal.compareFinite_eq_iff]

theorem eq_missing_of_ofDecimal {value : Decimal} (none : ofDecimal value = missing) :
    ∃ negative signaling payload, value = .missing negative signaling payload := by
  cases value with
  | finite negative coefficient exponent => cases none
  | infinite negative => cases none
  | missing negative signaling payload => exact ⟨negative, signaling, payload, rfl⟩

/-- A cell that is there and makes groups: a text, octets, or a number that is one. -/
inductive Present : Value → Prop
  | text (content : String) : Present (.text content)
  | bytes (content : List UInt8) : Present (.bytes content)
  | number {cell : Value} {value : Decimal} (exact : cell.exactNumber? = some value) (known : ofDecimal value ≠ missing)
      (seen : cell.isMissing = false) : Present cell

theorem present_of_usable {cell : Value} (able : usable cell = .ok ()) (seen : cell.isMissing = false) :
    Present cell := by
  cases cell with
  | null => cases seen
  | bool value => exact .number rfl nofun rfl
  | int value => exact .number rfl nofun rfl
  | float value =>
    refine .number rfl (fun none => ?_) seen
    obtain ⟨negative, signaling, payload, shape⟩ := eq_missing_of_ofDecimal none
    have none : (Value.float value).isMissing = true := Binary.isNaN_of_toDecimal shape
    rw [none] at seen
    cases seen
  | decimal value =>
    refine .number rfl (fun none => ?_) seen
    obtain ⟨negative, signaling, payload, rfl⟩ := eq_missing_of_ofDecimal none
    cases seen
  | bytes content => exact .bytes content
  | text content => exact .text content
  | list items => cases able
  | record fields => cases able

theorem ofCell_number {cell : Value} {value : Decimal} (exact : cell.exactNumber? = some value)
    (seen : cell.isMissing = false) : ofCell cell = ofDecimal value := by
  unfold ofCell
  rw [if_neg (by simp [seen])]
  cases cell <;> simp_all [Value.exactNumber?]

theorem Present.ofCell_ne {cell : Value} (present : Present cell) : ofCell cell ≠ missing := by
  cases present with
  | text content => nofun
  | bytes content => nofun
  | number exact known seen => rwa [ofCell_number exact seen]

theorem same_numbers {left right : Value} {first second : Decimal} (known : left.exactNumber? = some first)
    (other : right.exactNumber? = some second) : Value.same left right = decide (first.compare? second = some .eq) := by
  cases left <;> cases known <;> cases right <;> cases other <;> rfl

theorem number_apart {cell : Value} {value : Decimal} (exact : cell.exactNumber? = some value)
    (seen : cell.isMissing = false) {other : Value}
    (bare : (∃ content, other = .text content) ∨ ∃ content, other = .bytes content) :
    Value.same cell other = false ∧ Value.same other cell = false ∧ ofCell cell ≠ ofCell other := by
  rw [ofCell_number exact seen]
  obtain ⟨content, rfl⟩ | ⟨content, rfl⟩ := bare
  all_goals
    refine ⟨?_, ?_, ?_⟩
    · cases cell <;> cases exact <;> rfl
    · cases cell <;> cases exact <;> rfl
    · cases value <;> exact nofun

theorem Present.same_iff {left right : Value} (first : Present left) (second : Present right) :
    Value.same left right = true ↔ ofCell left = ofCell right := by
  cases first with
  | text content =>
    cases second with
    | text other => simp [Value.same, ofCell, Value.isMissing, Value.isBlankLeaf]
    | bytes other => simp [Value.same, ofCell, Value.isMissing, Value.isBlankLeaf, Value.exactNumber?]
    | number exact known seen =>
      obtain ⟨-, no, apart⟩ := number_apart exact seen (.inl ⟨content, rfl⟩)
      simp [no, apart.symm]
  | bytes content =>
    cases second with
    | text other => simp [Value.same, ofCell, Value.isMissing, Value.isBlankLeaf, Value.exactNumber?]
    | bytes other => simp [Value.same, ofCell, Value.isMissing, Value.isBlankLeaf]
    | number exact known seen =>
      obtain ⟨-, no, apart⟩ := number_apart exact seen (.inr ⟨content, rfl⟩)
      simp [no, apart.symm]
  | number exact known seen =>
    cases second with
    | text other =>
      obtain ⟨no, -, apart⟩ := number_apart exact seen (.inl ⟨other, rfl⟩)
      simp [no, apart]
    | bytes other =>
      obtain ⟨no, -, apart⟩ := number_apart exact seen (.inr ⟨other, rfl⟩)
      simp [no, apart]
    | number other known' seen' =>
      rw [same_numbers exact other, ofCell_number exact seen, ofCell_number other seen', decide_eq_true_eq,
        compare?_eq_iff known]

end Key

theorem ofCell_missing {cell : Value} (missing : cell.isMissing = true) : Key.ofCell cell = .missing := by
  unfold Key.ofCell
  rw [if_pos missing]

/-- Two cells make the same group when they are the same key. -/
theorem sameKey_iff {left right : Value} (first : usable left = .ok ()) (second : usable right = .ok ()) :
    sameKey left right = true ↔ Key.ofCell left = Key.ofCell right := by
  unfold sameKey
  cases leftMissing : left.isMissing with
  | true =>
    rw [ofCell_missing leftMissing]
    cases rightMissing : right.isMissing with
    | true => simp [ofCell_missing rightMissing]
    | false => simpa using (Key.present_of_usable second rightMissing).ofCell_ne.symm
  | false =>
    have present := Key.present_of_usable first leftMissing
    cases rightMissing : right.isMissing with
    | true => simpa [ofCell_missing rightMissing] using present.ofCell_ne
    | false => simpa using present.same_iff (Key.present_of_usable second rightMissing)

/-- The groups are the different keys of the rows, in order of appearance, each with the rows that have it. -/
theorem collect_eq {α : Type} (rows : List (List Nat × α)) :
    collect rows =
      (rows.map Prod.fst).eraseDups.map fun key => (key, (rows.filter (·.1 = key)).map Prod.snd) := by
  -- Rows are collected one after the other, so the induction takes them from the end.
  induction rows using List.reverseRecOn with
  | nil => rfl
  | append_singleton rows pair ih =>
    obtain ⟨key, row⟩ := pair
    have step : collect (rows ++ [(key, row)]) =
        if (collect rows).any fun group => group.1 = key then
          (collect rows).map fun group => if group.1 = key then (group.1, group.2 ++ [row]) else group
        else collect rows ++ [(key, [row])] := by
      rw [collect, List.foldl_append]
      rfl
    have known : ((collect rows).any fun group => group.1 = key) = true ↔ key ∈ rows.map Prod.fst := by
      rw [← List.mem_eraseDups, ih]
      simp
    rw [step, List.map_append, List.map_singleton]
    split
    next found =>
      rw [eraseDups_concat_of_mem (known.mp found), ih, List.map_map]
      refine List.map_congr_left fun other _ => ?_
      by_cases same : key = other
      · simp [same]
      · simp [same, Ne.symm same]
    next missed =>
      have unknown : key ∉ rows.map Prod.fst := fun member => missed (known.mpr member)
      have none : rows.filter (·.1 = key) = [] :=
        List.filter_eq_nil_iff.mpr fun pair member same =>
          unknown (List.mem_map.mpr ⟨pair, member, by simpa using same⟩)
      rw [eraseDups_concat_of_not_mem unknown, List.map_append, ih]
      congr 1
      · refine List.map_congr_left fun other member => ?_
        have apart : key ≠ other := fun same => unknown (List.mem_eraseDups.mp (same ▸ member))
        simp [apart]
      · simp [none]

theorem keys_collect {α : Type} (rows : List (List Nat × α)) :
    (collect rows).map Prod.fst = (rows.map Prod.fst).eraseDups := by
  rw [collect_eq, List.map_map]
  exact List.map_id _

theorem distinctKeys_concat (cells : List Value) (last : Value) :
    distinctKeys (cells ++ [last]) =
      if (distinctKeys cells).any (sameKey · last) then distinctKeys cells else distinctKeys cells ++ [last] := by
  rw [distinctKeys, List.foldl_append]
  rfl

theorem mem_of_mem_distinctKeys {cells : List Value} {key : Value} (member : key ∈ distinctKeys cells) :
    key ∈ cells := by
  induction cells using List.reverseRecOn with
  | nil => exact member
  | append_singleton cells last ih =>
    rw [distinctKeys_concat] at member
    split at member
    next => exact List.mem_append_left _ (ih member)
    next =>
      obtain earlier | own := List.mem_append.mp member
      · exact List.mem_append_left _ (ih earlier)
      · exact List.mem_append_right _ own

theorem findIdx_congr {α : Type} {items : List α} {test other : α → Bool}
    (agree : ∀ item ∈ items, test item = other item) : items.findIdx test = items.findIdx other := by
  induction items with
  | nil => rfl
  | cons item items ih =>
    obtain ⟨first, rest⟩ := List.forall_mem_cons.mp agree
    rw [List.findIdx_cons, List.findIdx_cons, first, ih rest]

section Column

variable {cells : List Value} (able : ∀ cell ∈ cells, usable cell = .ok ())

include able

theorem exists_distinctKey {cell : Value} (member : cell ∈ cells) :
    ∃ key ∈ distinctKeys cells, sameKey key cell = true := by
  induction cells using List.reverseRecOn with
  | nil => cases member
  | append_singleton cells last ih =>
    rw [distinctKeys_concat]
    obtain earlier | own := List.mem_append.mp member
    · obtain ⟨key, known, same⟩ := ih (fun cell inside => able cell (List.mem_append_left _ inside)) earlier
      refine ⟨key, ?_, same⟩
      split
      · exact known
      · exact List.mem_append_left _ known
    · obtain rfl := List.mem_singleton.mp own
      split
      next found => simpa using found
      next =>
        have usable := able cell member
        exact ⟨cell, List.mem_append_right _ own, (sameKey_iff usable usable).mpr rfl⟩

/-- The index of a cell leads to the one of the different keys that it is. -/
theorem exists_getElem_keyIndex {cell : Value} (member : cell ∈ cells) :
    ∃ key ∈ distinctKeys cells, (distinctKeys cells)[keyIndex (distinctKeys cells) cell]? = some key ∧
      sameKey key cell = true := by
  have inside : (distinctKeys cells).findIdx (sameKey · cell) < (distinctKeys cells).length :=
    List.findIdx_lt_length.mpr (exists_distinctKey able member)
  exact ⟨_, List.getElem_mem inside, List.getElem?_eq_getElem inside,
    @List.findIdx_getElem _ (sameKey · cell) (distinctKeys cells) inside⟩

/-- Cells of a column get the same index exactly when they are the same key. -/
theorem keyIndex_eq_iff {first second : Value} (one : first ∈ cells) (two : second ∈ cells) :
    keyIndex (distinctKeys cells) first = keyIndex (distinctKeys cells) second ↔
      Key.ofCell first = Key.ofCell second := by
  have same {key cell : Value} (known : key ∈ distinctKeys cells) (member : cell ∈ cells) :
      sameKey key cell = true ↔ Key.ofCell key = Key.ofCell cell :=
    sameKey_iff (able key (mem_of_mem_distinctKeys known)) (able cell member)
  constructor
  · intro index
    obtain ⟨key, known, shape, left⟩ := exists_getElem_keyIndex able one
    obtain ⟨other, known', shape', right⟩ := exists_getElem_keyIndex able two
    rw [index, shape'] at shape
    cases shape
    exact ((same known one).mp left).symm.trans ((same known' two).mp right)
  · intro keys
    have agree : ∀ key ∈ distinctKeys cells, sameKey key first = sameKey key second := by
      intro key known
      rw [Bool.eq_iff_iff, same known one, same known two, keys]
    -- No key tells the two cells apart, so the first one that is the same is the same one for both.
    exact findIdx_congr agree

end Column

theorem usable_of_forM {columns : List (List Value)} (ran : (columns.forM fun cells => cells.forM usable) = .ok ()) :
    ∀ cells ∈ columns, ∀ cell ∈ cells, usable cell = .ok () :=
  fun cells member => forM_eq_ok.mp (forM_eq_ok.mp ran cells member)

theorem transpose_eq {α : Type} (other : α) {count : Nat} {columns : List (List α)}
    (full : ∀ column ∈ columns, column.length = count) :
    transpose count columns = (List.range count).map fun index => columns.map (·.getD index other) := by
  apply List.map_congr_left
  intro index inside
  rw [List.filterMap_eq_map_iff_forall_eq_some]
  intro column member
  have inside : index < column.length := by rw [full column member]; exact List.mem_range.mp inside
  simp [inside]

theorem length_ofRows {rows : List Row} {columns : List (List Value)} {groups : List (List Value × List Row)}
    (full : ∀ cells ∈ columns, cells.length = rows.length) (ran : ofRows rows columns = .ok groups) :
    groups.length = ((List.range rows.length).map fun index =>
      columns.map fun cells => Key.ofCell (cells.getD index .null)).eraseDups.length := by
  obtain ⟨⟨⟩, checked, ran⟩ := ok_of_bind ran
  cases ran
  have able := usable_of_forM checked
  have indices : List.zipWith (fun keys (cells : List Value) => cells.map (keyIndex keys)) (columns.map distinctKeys)
      columns = columns.map fun cells => cells.map (keyIndex (distinctKeys cells)) := by
    rw [List.zipWith_map_left, List.zipWith_self]
  have even : ∀ column ∈ columns.map fun cells => cells.map (keyIndex (distinctKeys cells)),
      column.length = rows.length := by
    simpa using full
  have count : (transpose rows.length (columns.map fun cells => cells.map (keyIndex (distinctKeys cells)))).length =
      rows.length := by simp [transpose]
  rw [indices, List.length_map, ← List.length_map (f := Prod.fst), keys_collect, List.map_fst_zip (by rw [count]),
    transpose_eq 0 even]
  apply length_eraseDups_congr
  intro first one second two
  rw [List.map_map, List.map_map, List.map_inj_left, List.map_inj_left]
  have one := List.mem_range.mp one
  have two := List.mem_range.mp two
  apply forall₂_congr
  intro cells member
  have long := full cells member
  have known := keyIndex_eq_iff (able cells member) (List.getElem_mem (long ▸ one)) (List.getElem_mem (long ▸ two))
  simpa [long, one, two] using known

end FormQuery.Group
