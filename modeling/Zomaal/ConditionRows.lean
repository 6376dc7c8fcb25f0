/-
**The rows of a condition request, one by one and together.**

A row of a request is checked and priced by itself; then it is counted, and what is counted must not
exceed what was ordered, nor may a condition be named twice for the same pieces.

Main results:

* `foldlM_allocate_ok`, `foldlM_allocate_of` — **which rows are accepted**.
-/

import Zomaal.ReturnAllocations
import Zomaal.SortedLists

set_option autoImplicit false

namespace Zomaal

/-! ### One row -/

def rowEntry (costRate : Decimal) (line : OrderLine) (component : Option BundleComponent)
    (damageCost : Option JsNumber) (condition : ProductCondition) (quantity : ℤ) :
    StoredConditionEntry :=
  let unitCost := (((component.map fun c => c.componentVariant.costPrice).or
    (line.warehouseVariant.map fun variant => variant.costPrice)).getD 0) * costRate
  { componentVariantId := component.map fun c => c.componentVariant.id
    quantity
    condition
    damageCost := if condition = .damaged then damageCostAmount damageCost else none
    saleValue := saleValue costRate line component unitCost quantity
    physicalQuantity :=
      if component.isSome ∨ line.components.isEmpty then quantity
      else (line.components.map BundleComponent.quantity).sum * quantity
    unitCost := toFixed4 unitCost
    units := allocatedUnits line component quantity }

def rowComponent (line : OrderLine) (componentMode : Bool) (row : ConditionInput) :
    Option BundleComponent :=
  if componentMode then
    line.components.find? fun c => some c.componentVariant.id = row.componentVariantId
  else none

def readRow (costRate : Decimal) (line : OrderLine) (componentMode : Bool) (row : ConditionInput) :
    Except ServiceError StoredConditionEntry :=
  if componentMode ∧ (rowComponent line componentMode row).isNone then
    .error (.badRequest "Component does not belong to this pack")
  else
    match ProductCondition.ofText row.condition with
    | none => .error (.badRequest "Invalid product condition")
    | some condition =>
      if invalidDamageCost row.damageCost then
        .error (.badRequest "Damage cost must be a finite nonnegative amount")
      else
        match (row.quantity.getD (.finite line.quantity)).safeInteger.filter (1 ≤ ·) with
        | none => .error (.badRequest "Allocation quantity must be a positive integer")
        | some quantity =>
          .ok (rowEntry costRate line (rowComponent line componentMode row) row.damageCost
            condition quantity)

def StoredConditionEntry.identity (entry : StoredConditionEntry) : String :=
  entry.key ++ ":" ++ entry.condition.text

def addEntry (line : OrderLine) (componentMode : Bool) (allocation : Allocation)
    (entry : StoredConditionEntry) : Except ServiceError Allocation :=
  let total := (allocation.total entry.key).getD 0 + entry.quantity
  if line.capacity (line.componentOf componentMode entry.key) < total then
    .error (.badRequest "Condition quantities exceed ordered quantity")
  else if entry.identity ∈ allocation.identities then
    .error (.badRequest "Combine repeated conditions for the same component into one quantity")
  else
    .ok
      { totals := allocation.setTotal entry.key total
        identities := allocation.identities ++ [entry.identity]
        entries := allocation.entries ++ [entry] }

theorem ProductCondition.text_ofText {text : String} {condition : ProductCondition}
    (h : ProductCondition.ofText text = some condition) : condition.text = text := by
  simpa using List.find?_some h

section Rows

variable {costRate : Decimal} {line : OrderLine} {componentMode : Bool}

variable {entry : StoredConditionEntry}

theorem readRow_ok {row : ConditionInput}
    (h : readRow costRate line componentMode row = .ok entry) :
    ¬(componentMode = true ∧ (rowComponent line componentMode row).isNone = true) ∧
      ∃ condition quantity, ProductCondition.ofText row.condition = some condition ∧
        1 ≤ quantity ∧
        (row.quantity.getD (.finite line.quantity)).safeInteger = some quantity ∧
        entry = rowEntry costRate line (rowComponent line componentMode row) row.damageCost
          condition quantity := by
  unfold readRow at h
  split at h
  · cases h
  · rename_i hfound
    refine ⟨hfound, ?_⟩
    split at h
    · cases h
    · rename_i condition hcondition
      split at h
      · cases h
      · split at h
        · cases h
        · rename_i quantity hquantity
          obtain ⟨hread, hpositive⟩ := Option.filter_eq_some_iff.1 hquantity
          exact ⟨condition, quantity, hcondition, by simpa using hpositive, hread,
            (Except.ok.inj h).symm⟩

theorem allocate_eq_bind (allocation : Allocation) (row : ConditionInput) :
    allocate costRate line componentMode allocation row =
      (readRow costRate line componentMode row).bind
        (addEntry line componentMode allocation) := by
  unfold allocate readRow
  simp only [← rowComponent.eq_def]
  by_cases hfound : componentMode = true ∧ (rowComponent line componentMode row).isNone = true
  · rw [if_pos hfound, if_pos hfound]
    rfl
  rw [if_neg hfound, if_neg hfound]
  cases hcondition : ProductCondition.ofText row.condition with
  | none => rfl
  | some condition =>
    dsimp only
    by_cases hdamage : invalidDamageCost row.damageCost = true
    · rw [if_pos hdamage, if_pos hdamage]
      rfl
    rw [if_neg hdamage, if_neg hdamage]
    cases (row.quantity.getD (.finite line.quantity)).safeInteger.filter (1 ≤ ·) with
    | none => rfl
    | some quantity =>
      -- what is counted is counted under the key of the entry
      obtain ⟨hkey, -⟩ := componentOf_key line componentMode row rfl hfound
      have htext := ProductCondition.text_ofText hcondition
      dsimp only [Except.bind]
      rw [addEntry]
      simp only [StoredConditionEntry.identity, StoredConditionEntry.key, rowEntry, htext]
      rw [← rowComponent.eq_def] at hkey
      rw [hkey]
      rfl

/-! ### What is counted -/

def keyTotal (key : String) (entries : List StoredConditionEntry) : ℤ :=
  Ledger.total StoredConditionEntry.quantity (fun entry => entry.key = key) entries

variable (line componentMode) in
/-- **What the entries of a line may add up to**: no more than was ordered under any key, with no
condition named twice for it. -/
structure Counts (entries : List StoredConditionEntry) : Prop where
  bounded : ∀ entry ∈ entries, keyTotal entry.key entries ≤
    line.capacity (line.componentOf componentMode entry.key)
  distinct : (entries.map StoredConditionEntry.identity).Nodup

/-- What an allocation has counted is what its entries say. -/
structure Counted (allocation : Allocation) : Prop where
  total : ∀ key, keyTotal key allocation.entries = (allocation.total key).getD 0
  identities : allocation.identities = allocation.entries.map StoredConditionEntry.identity

theorem Counted.start : Counted {} := ⟨fun _ => rfl, rfl⟩

theorem keyTotal_concat (key : String) (entries : List StoredConditionEntry)
    (entry : StoredConditionEntry) : keyTotal key (entries ++ [entry]) =
      keyTotal key entries + if entry.key = key then entry.quantity else 0 := by
  rw [keyTotal, Ledger.total_concat, keyTotal]
  simp only [decide_eq_true_eq]

variable {allocation : Allocation}

variable {next : Allocation}

theorem addEntry_ok (hcounted : Counted allocation)
    (h : addEntry line componentMode allocation entry = .ok next) :
    next.entries = allocation.entries ++ [entry] ∧ Counted next ∧
      keyTotal entry.key next.entries ≤ line.capacity (line.componentOf componentMode entry.key) ∧
      entry.identity ∉ allocation.entries.map StoredConditionEntry.identity := by
  rw [addEntry] at h
  split at h
  · cases h
  · rename_i hbound
    split at h
    · cases h
    · rename_i hfresh
      obtain rfl := Except.ok.inj h
      rw [hcounted.identities] at hfresh
      refine ⟨rfl, ⟨fun key => ?_, ?_⟩, ?_, hfresh⟩
      · rw [keyTotal_concat, hcounted.total, Allocation.total_setTotal]
        by_cases hkey : key = entry.key
        · rw [if_pos hkey, if_pos hkey.symm, hkey, Option.getD_some]
        · rw [if_neg hkey, if_neg (Ne.symm hkey), add_zero]
      · rw [List.map_append, ← hcounted.identities]
        rfl
      · rw [keyTotal_concat, hcounted.total, if_pos rfl]
        exact not_lt.1 hbound

theorem addEntry_of (hcounted : Counted allocation)
    (hbound : keyTotal entry.key (allocation.entries ++ [entry]) ≤
      line.capacity (line.componentOf componentMode entry.key))
    (hfresh : entry.identity ∉ allocation.entries.map StoredConditionEntry.identity) :
    ∃ next, addEntry line componentMode allocation entry = .ok next := by
  rw [keyTotal_concat, hcounted.total, if_pos rfl] at hbound
  rw [← hcounted.identities] at hfresh
  rw [addEntry, if_neg (not_lt.2 hbound), if_neg hfresh]
  exact ⟨_, rfl⟩

variable {entries : List StoredConditionEntry}

theorem keyTotal_le_append {more : List StoredConditionEntry}
    (hmore : ∀ entry ∈ more, 1 ≤ entry.quantity) (key : String) :
    keyTotal key entries ≤ keyTotal key (entries ++ more) :=
  Ledger.total_le_of_append fun entry hentry _ => by
    have hquantity := hmore entry hentry
    omega

theorem foldlM_addEntry (hcounted : Counted allocation) (entries : List StoredConditionEntry)
    (hquantity : ∀ entry ∈ entries, 1 ≤ entry.quantity) :
    (∀ next, entries.foldlM (addEntry line componentMode) allocation = .ok next →
      next.entries = allocation.entries ++ entries ∧ Counted next ∧
        (Counts line componentMode allocation.entries →
          Counts line componentMode (allocation.entries ++ entries))) ∧
    (Counts line componentMode (allocation.entries ++ entries) →
      ∃ next, entries.foldlM (addEntry line componentMode) allocation = .ok next) := by
  induction entries generalizing allocation with
  | nil =>
    refine ⟨fun next h => ?_, fun _ => ⟨allocation, rfl⟩⟩
    obtain rfl := Except.ok.inj h
    rw [List.append_nil]
    exact ⟨rfl, hcounted, fun h => h⟩
  | cons entry entries ih =>
    have hrest : ∀ entry ∈ entries, 1 ≤ entry.quantity :=
      fun entry hentry => hquantity entry (List.mem_cons_of_mem _ hentry)
    have hsplit : allocation.entries ++ entry :: entries =
        (allocation.entries ++ [entry]) ++ entries := by
      rw [List.append_assoc, List.singleton_append]
    constructor
    · intro next h
      rw [List.foldlM_cons] at h
      obtain ⟨middle, hadd, h⟩ := Except.bind_eq_ok h
      obtain ⟨hentries, hcounted', hbound, hfresh⟩ := addEntry_ok hcounted hadd
      obtain ⟨hnext, hcounts, hkeeps⟩ := (ih hcounted' hrest).1 next h
      rw [hentries] at hnext hkeeps hbound
      rw [hsplit]
      refine ⟨hnext, hcounts, fun hbefore => hkeeps ⟨fun other hother => ?_, ?_⟩⟩
      · by_cases hkey : entry.key = other.key
        · rwa [← hkey]
        · rcases Ledger.mem_concat.1 hother with hother | hother
          · rw [keyTotal_concat, if_neg hkey, add_zero]
            exact hbefore.bounded other hother
          · exact absurd (congrArg StoredConditionEntry.key hother).symm
              hkey
      · rw [List.map_append, List.map_singleton]
        exact List.nodup_append.2 ⟨hbefore.distinct, List.nodup_singleton _,
          fun a ha b hb hab => hfresh ((List.mem_singleton.1 hb) ▸ hab ▸ ha)⟩
    · intro hall
      rw [hsplit] at hall
      have hdistinct := hall.distinct
      rw [List.map_append, List.map_append, List.map_singleton] at hdistinct
      obtain ⟨middle, hadd⟩ := addEntry_of hcounted
        ((keyTotal_le_append hrest entry.key).trans (hall.bounded entry (by simp)))
        fun hmem => (List.nodup_append.1 (List.nodup_append.1 hdistinct).1).2.2 _ hmem _
          (List.mem_singleton_self _) rfl
      obtain ⟨hentries, hcounted', -, -⟩ := addEntry_ok hcounted hadd
      rw [← hentries] at hall
      obtain ⟨next, hnext⟩ := (ih hcounted' hrest).2 hall
      exact ⟨next, by
        rw [List.foldlM_cons, hadd]
        exact hnext⟩

/-! ### All rows -/

variable (costRate line componentMode) in
def Reads (rows : List ConditionInput) (entries : List StoredConditionEntry) : Prop :=
  List.Forall₂ (fun row entry => readRow costRate line componentMode row = .ok entry) rows entries

variable {rows : List ConditionInput}

theorem Reads.quantity (h : Reads costRate line componentMode rows entries) :
    ∀ entry ∈ entries, 1 ≤ entry.quantity := by
  induction h with
  | nil => exact fun entry hentry => nomatch hentry
  | cons hread _ ih =>
    intro entry hentry
    rcases List.mem_cons.1 hentry with rfl | hentry
    · obtain ⟨-, condition, quantity, -, hpositive, -, rfl⟩ := readRow_ok hread
      exact hpositive
    · exact ih entry hentry

theorem foldlM_allocate_eq_ok :
    rows.foldlM (allocate costRate line componentMode) allocation = .ok next ↔
      ∃ entries, Reads costRate line componentMode rows entries ∧
        entries.foldlM (addEntry line componentMode) allocation = .ok next := by
  induction rows generalizing allocation with
  | nil =>
    constructor
    · intro h
      exact ⟨[], .nil, h⟩
    · rintro ⟨entries, hreads, h⟩
      cases hreads
      exact h
  | cons row rows ih =>
    rw [List.foldlM_cons, allocate_eq_bind]
    constructor
    · intro h
      obtain ⟨middle, hbind, h⟩ := Except.bind_eq_ok h
      obtain ⟨entry, hread, hadd⟩ := Except.bind_eq_ok hbind
      obtain ⟨entries, hreads, hrest⟩ := ih.1 h
      refine ⟨entry :: entries, .cons hread hreads, ?_⟩
      rw [List.foldlM_cons, hadd]
      exact hrest
    · rintro ⟨entries, hreads, h⟩
      cases hreads with
      | cons hread hreads =>
        rw [List.foldlM_cons] at h
        obtain ⟨middle, hadd, hrest⟩ := Except.bind_eq_ok h
        rw [hread]
        change (addEntry line componentMode allocation _ >>= _) = _
        rw [hadd]
        exact ih.2 ⟨_, hreads, hrest⟩

/-- **Which rows are accepted**: those whose entries count. -/
theorem foldlM_allocate_ok (h : rows.foldlM (allocate costRate line componentMode) {} = .ok next) :
    Reads costRate line componentMode rows next.entries ∧
      Counts line componentMode next.entries ∧ Counted next := by
  obtain ⟨entries, hreads, hfold⟩ := foldlM_allocate_eq_ok.1 h
  obtain ⟨hentries, hcounted, hcounts⟩ :=
    (foldlM_addEntry Counted.start entries hreads.quantity).1 next hfold
  rw [List.nil_append] at hentries hcounts
  rw [hentries]
  exact ⟨hreads, hcounts ⟨fun _ h => (nomatch h), List.nodup_nil⟩, hcounted⟩

theorem foldlM_allocate_of (hreads : Reads costRate line componentMode rows entries)
    (hcounts : Counts line componentMode entries) :
    ∃ next, rows.foldlM (allocate costRate line componentMode) {} = .ok next ∧
      next.entries = entries ∧ Counted next := by
  have hfold := @foldlM_addEntry line componentMode {} Counted.start entries hreads.quantity
  obtain ⟨next, hnext⟩ := hfold.2 (by rwa [List.nil_append])
  obtain ⟨hentries, hcounted, -⟩ := hfold.1 next hnext
  rw [List.nil_append] at hentries
  exact ⟨next, foldlM_allocate_eq_ok.2 ⟨entries, hreads, hnext⟩, hentries, hcounted⟩

/-- **A line is completely allocated** when every component, or the whole, is counted in full. -/
theorem allocationCompleted_iff (hcounted : Counted allocation) :
    allocationCompleted line componentMode allocation = true ↔
      if componentMode = true then
        ∀ c ∈ line.components, keyTotal c.componentVariant.id allocation.entries =
          c.quantity * line.quantity
      else keyTotal "LINE" allocation.entries = line.quantity := by
  -- a positive number is counted only where something is
  have hsome : ∀ (key : String) (n : ℤ), 0 < n →
      (allocation.total key = some n ↔ keyTotal key allocation.entries = n) := by
    intro key n hn
    rw [hcounted.total]
    cases allocation.total key with
    | none =>
      rw [Option.getD_none]
      exact ⟨fun h => (nomatch h), fun h => absurd h hn.ne⟩
    | some m => rw [Option.getD_some, Option.some_inj]
  rw [allocationCompleted]
  cases componentMode with
  | false =>
    rw [if_neg Bool.false_ne_true, if_neg Bool.false_ne_true, decide_eq_true_eq,
      hsome _ _ line.quantity_pos]
  | true =>
    rw [if_pos rfl, if_pos rfl, List.all_eq_true]
    refine forall₂_congr fun c _ => ?_
    rw [decide_eq_true_eq, hsome _ _ (mul_pos c.quantity_pos line.quantity_pos)]

end Rows

/-! ### The rows of a line -/

section Line

variable {locale : Locale} {costRate : Decimal} {storeId : String} {line : OrderLine}
  {componentMode : Bool}

/-- Whether the rows of a line are about the components of a pack. -/
def inComponentMode (rows : List ConditionInput) : Bool :=
  rows.any fun row => row.componentVariantId.isSome

def sortedEntries (locale : Locale) (allocation : Allocation) : List StoredConditionEntry :=
  allocation.entries.mergeSort (keyLE locale.localeCompare entrySortKey)

def newSnapshot (locale : Locale) (line : OrderLine) (componentMode : Bool)
    (allocation : Allocation) : ConditionSnapshot where
  completed := allocationCompleted line componentMode allocation
  expectedQuantity := if line.components.isEmpty then line.quantity else line.pieces
  loss := toFixed4 ((sortedEntries locale allocation).map entryLoss).sum
  entries := sortedEntries locale allocation

/-- The saved allocation, if it is the one that is asked for again. -/
def repeated (locale : Locale) (line : OrderLine) (allocation : Allocation) :
    Option ConditionSnapshot :=
  line.conditionAllocations.filter fun previous =>
    previous.entries.map requestFields = (sortedEntries locale allocation).map requestFields

def outdated (line : OrderLine) (rows : List ConditionInput) : Bool :=
  rows.any fun row => row.expectedRevision.any fun revision =>
    revision ≠ .finite (line.conditionRevision : ℚ)

def concludeLine (locale : Locale) (line : OrderLine) (rows : List ConditionInput)
    (allocation : Allocation) : Except ServiceError PreparedLine :=
  let notes := rows.head?.bind ConditionInput.notes
  match repeated locale line allocation with
  | some previous => .ok { line, snapshot := previous, unchanged := true, notes }
  | none =>
    if outdated line rows then
      .error (.conflict
        "Conditions changed; reload the saved return before replacing allocations")
    else do
      assertPersistedMoney ((sortedEntries locale allocation).map entryLoss).sum "Allocated loss"
      .ok
        { line
          snapshot := newSnapshot locale line (inComponentMode rows) allocation
          unchanged := false
          notes }

theorem concludeLine_eq_ok {rows : List ConditionInput} {allocation : Allocation}
    {prepared : PreparedLine} :
    concludeLine locale line rows allocation = .ok prepared ↔
      (∃ previous, repeated locale line allocation = some previous ∧
        prepared = { line, snapshot := previous, unchanged := true,
                     notes := rows.head?.bind ConditionInput.notes }) ∨
      (repeated locale line allocation = none ∧ outdated line rows = false ∧
        assertPersistedMoney ((sortedEntries locale allocation).map entryLoss).sum
          "Allocated loss" = .ok () ∧
        prepared = { line, snapshot := newSnapshot locale line (inComponentMode rows) allocation,
                     unchanged := false, notes := rows.head?.bind ConditionInput.notes }) := by
  rw [concludeLine]
  cases hrepeated : repeated locale line allocation with
  | some previous =>
    constructor
    · intro h
      exact .inl ⟨previous, rfl, (Except.ok.inj h).symm⟩
    · rintro (⟨_, heq, rfl⟩ | ⟨hnone, -⟩)
      · obtain rfl := Option.some.inj heq
        rfl
      · cases hnone
  | none =>
    dsimp only
    constructor
    · intro h
      split at h
      · cases h
      · rename_i houtdated
        obtain ⟨_, hloss, h⟩ := Except.bind_eq_ok h
        exact .inr ⟨rfl, Bool.eq_false_iff.2 houtdated, hloss, (Except.ok.inj h).symm⟩
    · rintro (⟨_, heq, -⟩ | ⟨-, houtdated, hloss, rfl⟩)
      · cases heq
      · rw [if_neg (by rw [houtdated]; exact Bool.false_ne_true), hloss]
        rfl

def refuseRows (storeId : String) (line : OrderLine) (rows : List ConditionInput) : Bool :=
  (line.warehouseVariant.any fun variant => variant.storeId ≠ storeId) ||
    (line.components.any fun c => c.componentVariant.storeId ≠ storeId) ||
    (inComponentMode rows && (line.components.isEmpty ||
      rows.any fun row => row.componentVariantId.getD "" = "")) ||
    (decide (1 < rows.length) && rows.any fun row => row.quantity.isNone)

theorem prepareLine_eq_ok {rows : List ConditionInput} {prepared : PreparedLine} :
    prepareLine locale costRate storeId line rows = .ok prepared ↔
      refuseRows storeId line rows = false ∧ ∃ allocation,
        rows.foldlM (allocate costRate line (inComponentMode rows)) {} = .ok allocation ∧
        concludeLine locale line rows allocation = .ok prepared := by
  have hconclude : ∀ check : Except ServiceError Allocation,
      (check >>= concludeLine locale line rows) = .ok prepared ↔
        ∃ allocation, check = .ok allocation ∧
          concludeLine locale line rows allocation = .ok prepared := by
    intro check
    constructor
    · exact fun h => Except.bind_eq_ok h
    · rintro ⟨allocation, rfl, h⟩
      exact h
  rw [← hconclude, refuseRows, prepareLine]
  simp only [← inComponentMode.eq_def]
  by_cases hstore : (line.warehouseVariant.any fun variant => variant.storeId ≠ storeId) = true
  · rw [if_pos hstore, hstore]
    simp
  rw [if_neg hstore, Bool.eq_false_iff.2 hstore, Bool.false_or]
  by_cases hcomponents :
      (line.components.any fun c => c.componentVariant.storeId ≠ storeId) = true
  · rw [if_pos hcomponents, hcomponents]
    simp
  rw [if_neg hcomponents, Bool.eq_false_iff.2 hcomponents, Bool.false_or]
  by_cases hmode : inComponentMode rows = true ∧
      (line.components.isEmpty = true ∨
        (rows.any fun row => row.componentVariantId.getD "" = "") = true)
  · rw [if_pos hmode, hmode.1, Bool.or_eq_true_iff.2 hmode.2]
    simp
  rw [if_neg hmode]
  rw [← Bool.or_eq_true, ← Bool.and_eq_true] at hmode
  rw [Bool.eq_false_iff.2 hmode, Bool.false_or]
  by_cases hquantity : 1 < rows.length ∧ (rows.any fun row => row.quantity.isNone) = true
  · rw [if_pos hquantity, decide_eq_true hquantity.1, hquantity.2]
    simp
  rw [if_neg hquantity]
  rw [← @decide_eq_true_eq (1 < rows.length), ← Bool.and_eq_true] at hquantity
  rw [Bool.eq_false_iff.2 hquantity]
  exact ⟨fun h => ⟨rfl, h⟩, fun h => h.2⟩

end Line

end Zomaal
