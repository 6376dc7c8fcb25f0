/-
**The books of the salaries.**

A staff member has one payment a day at most.  A payment that is paid has its expense, of the same
amount, which is the expense of no other payment; and there are no other expenses.

Main results:

* `Salary.SalaryDb.linkExpense_step`, `Salary.SalaryDb.payWith_step`,
  `Salary.SalaryDb.createPayment_books` — the writers;
* `Salary.SalaryBooks.linked_once` — **a paid payment has just one expense**.
-/

import Zomaal.SalaryPayments

set_option autoImplicit false

namespace Zomaal.Salary

/-- The books are in order, but for a payment whose expense is owed. -/
structure SalaryBooks (owed : Option ℕ) (db : SalaryDb) : Prop where
  ids : (db.payments.map StaffSalaryPayment.id).Nodup
  days : (db.payments.map fun r => (r.staffMemberId, r.day)).Nodup
  expenseIds : (db.expenses.map SalaryExpense.id).Nodup
  linked : ∀ r ∈ db.payments, ∀ id ∈ r.expenseId,
    ∃ e ∈ db.expenses, e.id = id ∧ e.amount = r.amount ∧ e.staffMemberId = r.staffMemberId
  distinct : ∀ r ∈ db.payments, ∀ r' ∈ db.payments, r.expenseId.isSome →
    r.expenseId = r'.expenseId → r.id = r'.id
  used : ∀ e ∈ db.expenses, ∃ r ∈ db.payments, r.expenseId = some e.id
  paid : ∀ r ∈ db.payments, r.status = .paid → some r.id ≠ owed → r.expenseId.isSome

structure Later (r r' : StaffSalaryPayment) : Prop where
  id : r'.id = r.id
  staffMemberId : r'.staffMemberId = r.staffMemberId
  scheduledFor : r'.scheduledFor = r.scheduledFor
  paymentDate : r'.paymentDate = r.paymentDate
  amount : r'.amount = r.amount
  createdByUserId : r'.createdByUserId = r.createdByUserId
  paid : r.status = .paid → r'.status = .paid

theorem Later.refl (r : StaffSalaryPayment) : Later r r := ⟨rfl, rfl, rfl, rfl, rfl, rfl, fun h => h⟩

variable {r : StaffSalaryPayment}

variable {r' : StaffSalaryPayment}

theorem Later.trans {r'' : StaffSalaryPayment} (h : Later r r') (h' : Later r' r'') : Later r r'' :=
  ⟨h'.id.trans h.id, h'.staffMemberId.trans h.staffMemberId, h'.scheduledFor.trans h.scheduledFor,
    h'.paymentDate.trans h.paymentDate, h'.amount.trans h.amount,
    h'.createdByUserId.trans h.createdByUserId, fun hpaid => h'.paid (h.paid hpaid)⟩

theorem Later.day (h : Later r r') : r'.day = r.day := by
  rw [StaffSalaryPayment.day, h.scheduledFor, h.paymentDate]
  rfl

/-- **What becomes of the payments**: the ones that were there remain, and the others are `New`. -/
structure SalaryStep (New : StaffSalaryPayment → Prop) (db db' : SalaryDb) : Prop where
  books : SalaryBooks none db'
  staff : db'.staff = db.staff
  profiles : db'.profiles = db.profiles
  kept : ∀ r ∈ db.payments, ∃ r' ∈ db'.payments, Later r r'
  rows : ∀ r' ∈ db'.payments, (∃ r ∈ db.payments, Later r r') ∨ New r'

namespace SalaryStep

variable {New New' : StaffSalaryPayment → Prop} {db db' db'' : SalaryDb}

theorem refl (h : SalaryBooks none db) : SalaryStep New db db :=
  ⟨h, rfl, rfl, fun r hr => ⟨r, hr, .refl r⟩, fun r hr => .inl ⟨r, hr, .refl r⟩⟩

theorem mono (h : SalaryStep New db db') (hnew : ∀ r, New r → New' r) : SalaryStep New' db db' :=
  ⟨h.books, h.staff, h.profiles, h.kept, fun r hr => (h.rows r hr).imp_right (hnew r)⟩

theorem trans (h : SalaryStep New db db') (h' : SalaryStep New db' db'')
    (hlater : ∀ r r', New r → Later r r' → New r') : SalaryStep New db db'' := by
  refine ⟨h'.books, h'.staff.trans h.staff, h'.profiles.trans h.profiles, ?_, ?_⟩
  · intro r hr
    obtain ⟨r', hr', hrr'⟩ := h.kept r hr
    obtain ⟨r'', hr'', hrr''⟩ := h'.kept r' hr'
    exact ⟨r'', hr'', hrr'.trans hrr''⟩
  · intro r'' hr''
    rcases h'.rows r'' hr'' with ⟨r', hr', hrr''⟩ | hnew
    · rcases h.rows r' hr' with ⟨r, hr, hrr'⟩ | hnew
      · exact .inl ⟨r, hr, hrr'.trans hrr''⟩
      · exact .inr (hlater r' r'' hnew hrr'')
    · exact .inr hnew

theorem findProfile (h : SalaryStep New db db') (staffMemberId : String) :
    db'.findProfile staffMemberId = db.findProfile staffMemberId := by
  rw [SalaryDb.findProfile, h.profiles]
  rfl

end SalaryStep

/-! ### One row for a day, one expense for a payment -/

namespace SalaryBooks

variable {owed : Option ℕ} {db : SalaryDb}

theorem eq_of_id (h : SalaryBooks owed db) (hr : r ∈ db.payments) (hr' : r' ∈ db.payments)
    (hid : r.id = r'.id) : r = r' :=
  List.inj_on_of_nodup_map h.ids hr hr' hid

theorem eq_of_day (h : SalaryBooks owed db) (hr : r ∈ db.payments) (hr' : r' ∈ db.payments)
    (hstaff : r.staffMemberId = r'.staffMemberId) (hday : r.day = r'.day) : r = r' :=
  List.inj_on_of_nodup_map h.days hr hr' (Prod.ext hstaff hday)

theorem receipts (h : SalaryBooks owed db) (receipts : List ReceiptAsset) :
    SalaryBooks owed { db with receipts } :=
  ⟨h.ids, h.days, h.expenseIds, h.linked, h.distinct, h.used, h.paid⟩

theorem owe (h : SalaryBooks none db) (id : ℕ) : SalaryBooks (some id) db :=
  ⟨h.ids, h.days, h.expenseIds, h.linked, h.distinct, h.used,
    fun r hr hpaid _ => h.paid r hr hpaid (by simp)⟩

theorem one_a_day (h : SalaryBooks owed db) (hr : r ∈ db.payments) :
    (db.payments.filter fun r' => r'.staffMemberId = r.staffMemberId && r'.day = r.day) = [r] := by
  refine KeyedRows.filter_eq_singleton _ h.days hr (by simp) fun r' hr' hsel => ?_
  rw [Bool.and_eq_true, decide_eq_true_iff, decide_eq_true_iff] at hsel
  exact h.eq_of_day hr' hr hsel.1 hsel.2

theorem linked_once (h : SalaryBooks none db) (hr : r ∈ db.payments) (hpaid : r.status = .paid) :
    ∃ e, (db.expenses.filter fun e => r.expenseId = some e.id) = [e] ∧ e.amount = r.amount ∧
      e.staffMemberId = r.staffMemberId ∧
      ∀ r' ∈ db.payments, r'.expenseId = some e.id → r' = r := by
  obtain ⟨id, hid⟩ := Option.isSome_iff_exists.1 (h.paid r hr hpaid (by simp))
  obtain ⟨e, he, rfl, hamount, hstaff⟩ := h.linked r hr id hid
  refine ⟨e, ?_, hamount, hstaff, ?_⟩
  · refine KeyedRows.filter_eq_singleton _ h.expenseIds he (decide_eq_true hid) fun e' he' hsel => ?_
    have heq : some e.id = some e'.id := hid.symm.trans (of_decide_eq_true hsel)
    exact List.inj_on_of_nodup_map h.expenseIds he' he (Option.some.inj heq).symm
  · intro r' hr' hlink
    exact h.eq_of_id hr' hr (h.distinct r' hr' r hr (by rw [hlink]; rfl) (hlink.trans hid.symm))

end SalaryBooks

/-! ### Ids -/

theorem lt_freshId {ids : List ℕ} {id : ℕ} (h : id ∈ ids) : id < freshId ids := by
  rw [freshId, Nat.lt_add_one_iff]
  induction ids with
  | nil => cases h
  | cons first ids ih =>
    rw [List.foldr_cons]
    rcases List.mem_cons.1 h with rfl | h
    · exact le_max_left _ _
    · exact (ih h).trans (le_max_right _ _)

theorem freshId_not_mem (ids : List ℕ) : freshId ids ∉ ids := fun h => lt_irrefl _ (lt_freshId h)

theorem Later.map {f : StaffSalaryPayment → StaffSalaryPayment} {rows : List StaffSalaryPayment}
    (h : ∀ r ∈ rows, Later r (f r)) :
    (rows.map f).map StaffSalaryPayment.id = rows.map StaffSalaryPayment.id ∧
      (rows.map f).map (fun r => (r.staffMemberId, r.day)) =
        rows.map fun r => (r.staffMemberId, r.day) := by
  constructor
  · rw [List.map_map]
    exact List.map_congr_left fun r hr => (h r hr).id
  · rw [List.map_map]
    refine List.map_congr_left fun r hr => ?_
    simp only [Function.comp_apply]
    rw [(h r hr).staffMemberId, (h r hr).day]

namespace SalaryDb

variable {db db' : SalaryDb}

/-! ### A payment is changed -/

theorem updatePayment_payments (id : ℕ) (change : StaffSalaryPayment → StaffSalaryPayment) :
    (db.updatePayment id change).payments =
      db.payments.map fun r => if r.id = id then change r else r := rfl

theorem updatePayment_owed (h : SalaryBooks none db) {id : ℕ}
    {change : StaffSalaryPayment → StaffSalaryPayment}
    (hchange : ∀ r ∈ db.payments, r.id = id → Later r (change r) ∧ (change r).expenseId = r.expenseId) :
    SalaryBooks (some id) (db.updatePayment id change) := by
  have hrow : ∀ r ∈ db.payments, Later r (if r.id = id then change r else r) ∧
      (if r.id = id then change r else r).expenseId = r.expenseId := by
    intro r hr
    split
    · rename_i hid
      exact hchange r hr hid
    · exact ⟨.refl r, rfl⟩
  obtain ⟨hids, hdays⟩ := Later.map fun r hr => (hrow r hr).1
  refine ⟨hids ▸ h.ids, hdays ▸ h.days, h.expenseIds, ?_, ?_, ?_, ?_⟩
  · intro r' hr' id' hid'
    obtain ⟨r, hr, rfl⟩ := List.mem_map.1 hr'
    obtain ⟨hlater, hexpense⟩ := hrow r hr
    obtain ⟨e, he, heid, hamount, hstaff⟩ := h.linked r hr id' (hexpense ▸ hid')
    exact ⟨e, he, heid, hamount.trans hlater.amount.symm, hstaff.trans hlater.staffMemberId.symm⟩
  · intro r' hr' r'' hr'' hsome heq
    obtain ⟨r₁, hr₁, rfl⟩ := List.mem_map.1 hr'
    obtain ⟨r₂, hr₂, rfl⟩ := List.mem_map.1 hr''
    rw [(hrow r₁ hr₁).2] at hsome heq
    rw [(hrow r₂ hr₂).2] at heq
    rw [(hrow r₁ hr₁).1.id, (hrow r₂ hr₂).1.id]
    exact h.distinct r₁ hr₁ r₂ hr₂ hsome heq
  · intro e he
    obtain ⟨r, hr, hlink⟩ := h.used e he
    exact ⟨_, List.mem_map_of_mem hr, (hrow r hr).2.trans hlink⟩
  · intro r' hr' hpaid howed
    obtain ⟨r, hr, rfl⟩ := List.mem_map.1 hr'
    have hid : r.id ≠ id := fun hid => howed (by rw [(hrow r hr).1.id, hid])
    rw [if_neg hid] at hpaid ⊢
    exact h.paid r hr hpaid (by simp)

/-! ### An expense is linked -/

variable {storeId : String}

theorem salaryCategory_eq {categoryId : ℕ} (h : db.salaryCategory storeId = .ok (db', categoryId)) :
    ∃ categories, db' = { db with categories } := by
  unfold salaryCategory at h
  split at h
  · obtain ⟨rfl, _⟩ := Prod.mk.inj (Except.ok.inj h)
    exact ⟨_, rfl⟩
  · split at h
    · split at h
      · obtain ⟨rfl, _⟩ := Prod.mk.inj (Except.ok.inj h)
        exact ⟨_, rfl⟩
      · cases h
    · obtain ⟨rfl, _⟩ := Prod.mk.inj (Except.ok.inj h)
      exact ⟨_, rfl⟩

/-- A row, after the expense of the payment `id` is linked. -/
def linkedRow (id expenseId : ℕ) (r : StaffSalaryPayment) : StaffSalaryPayment :=
  if r.id = id then { r with expenseId := some expenseId } else r

theorem linkedRow_cases (id expenseId : ℕ) (r : StaffSalaryPayment) :
    (r.id = id ∧ linkedRow id expenseId r = { r with expenseId := some expenseId }) ∨
      r.id ≠ id ∧ linkedRow id expenseId r = r := by
  by_cases hid : r.id = id
  · exact .inl ⟨hid, if_pos hid⟩
  · exact .inr ⟨hid, if_neg hid⟩

theorem linkedRow_later (id expenseId : ℕ) (r : StaffSalaryPayment) :
    Later r (linkedRow id expenseId r) := by
  rcases linkedRow_cases id expenseId r with ⟨_, hrow⟩ | ⟨_, hrow⟩
  · rw [hrow]
    exact ⟨rfl, rfl, rfl, rfl, rfl, rfl, fun h => h⟩
  · rw [hrow]
    exact .refl r

variable {payment : StaffSalaryPayment} {userId : Option String} {staff : StaffMember}

theorem linkExpense_eq (h : db.linkExpense storeId userId staff payment = .ok db') :
    (payment.expenseId.isSome ∧ db' = db) ∨
      payment.expenseId = none ∧ ∃ e categories, e.id ∉ db.expenses.map SalaryExpense.id ∧
        e.amount = payment.amount ∧ e.staffMemberId = payment.staffMemberId ∧
        db' = { db with
          categories, expenses := db.expenses ++ [e]
          payments := db.payments.map (linkedRow payment.id e.id) } := by
  unfold linkExpense at h
  split at h
  · rename_i hsome
    exact .inl ⟨hsome, (Except.ok.inj h).symm⟩
  · rename_i hnone
    refine .inr ⟨Option.not_isSome_iff_eq_none.1 hnone, ?_⟩
    split at h
    · cases h
    · rename_i db₁ categoryId hcategory
      obtain ⟨categories, rfl⟩ := salaryCategory_eq hcategory
      obtain rfl := Except.ok.inj h
      exact ⟨_, categories, freshId_not_mem _, rfl, rfl, rfl⟩

theorem linkExpense_step (h : SalaryBooks (some payment.id) db) (hmem : payment ∈ db.payments)
    (hrun : db.linkExpense storeId userId staff payment = .ok db') :
    SalaryStep (fun _ => False) db db' := by
  rcases linkExpense_eq hrun with ⟨hsome, rfl⟩ | ⟨hnone, e, categories, hfresh, hamount, hstaff, rfl⟩
  · refine SalaryStep.refl ⟨h.ids, h.days, h.expenseIds, h.linked, h.distinct, h.used, ?_⟩
    intro r hr hpaid _
    by_cases hid : r.id = payment.id
    · rw [h.eq_of_id hr hmem hid]
      exact hsome
    · exact h.paid r hr hpaid fun heq => hid (Option.some.inj heq)
  -- the row of the payment gets an id that no other row has
  have hunused : ∀ r ∈ db.payments, r.expenseId ≠ some e.id := by
    intro r hr hlink
    obtain ⟨e', he', hid, _⟩ := h.linked r hr e.id hlink
    exact hfresh (hid ▸ List.mem_map_of_mem he')
  obtain ⟨hids, hdays⟩ := Later.map fun r (_ : r ∈ db.payments) => linkedRow_later payment.id e.id r
  refine ⟨⟨hids ▸ h.ids, hdays ▸ h.days, KeyedRows.nodup_append _ h.expenseIds hfresh,
    ?_, ?_, ?_, ?_⟩, rfl, rfl, ?_, ?_⟩
  · intro r' hr' id hid
    obtain ⟨r, hr, rfl⟩ := List.mem_map.1 hr'
    rcases linkedRow_cases payment.id e.id r with ⟨heq, hrow⟩ | ⟨_, hrow⟩
    · obtain rfl := h.eq_of_id hr hmem heq
      rw [hrow] at hid ⊢
      exact ⟨e, by simp, Option.some.inj hid, hamount, hstaff⟩
    · rw [hrow] at hid ⊢
      obtain ⟨e', he', hlink⟩ := h.linked r hr id hid
      exact ⟨e', List.mem_append_left _ he', hlink⟩
  · intro r₁' hr₁' r₂' hr₂' hsome heq
    obtain ⟨r₁, hr₁, rfl⟩ := List.mem_map.1 hr₁'
    obtain ⟨r₂, hr₂, rfl⟩ := List.mem_map.1 hr₂'
    rcases linkedRow_cases payment.id e.id r₁ with ⟨hid₁, hrow₁⟩ | ⟨_, hrow₁⟩ <;>
      rcases linkedRow_cases payment.id e.id r₂ with ⟨hid₂, hrow₂⟩ | ⟨_, hrow₂⟩ <;>
        rw [hrow₁, hrow₂] at heq ⊢
    · exact hid₁.trans hid₂.symm
    · exact absurd heq.symm (hunused r₂ hr₂)
    · exact absurd heq (hunused r₁ hr₁)
    · rw [hrow₁] at hsome
      exact h.distinct r₁ hr₁ r₂ hr₂ hsome heq
  · intro e' he'
    rcases List.mem_append.1 he' with he' | he'
    · obtain ⟨r, hr, hlink⟩ := h.used e' he'
      rcases linkedRow_cases payment.id e.id r with ⟨hid, _⟩ | ⟨_, hrow⟩
      · rw [h.eq_of_id hr hmem hid, hnone] at hlink
        cases hlink
      · exact ⟨_, List.mem_map_of_mem hr, (congrArg StaffSalaryPayment.expenseId hrow).trans hlink⟩
    · obtain rfl := List.mem_singleton.1 he'
      refine ⟨_, List.mem_map_of_mem hmem, ?_⟩
      rw [linkedRow, if_pos rfl]
  · intro r' hr' hpaid _
    obtain ⟨r, hr, rfl⟩ := List.mem_map.1 hr'
    rcases linkedRow_cases payment.id e.id r with ⟨_, hrow⟩ | ⟨hid, hrow⟩
    · rw [hrow]
      rfl
    · rw [hrow] at hpaid ⊢
      exact h.paid r hr hpaid fun heq => hid (Option.some.inj heq)
  · exact fun r hr => ⟨_, List.mem_map_of_mem hr, linkedRow_later _ _ r⟩
  · intro r' hr'
    obtain ⟨r, hr, rfl⟩ := List.mem_map.1 hr'
    exact .inl ⟨r, hr, linkedRow_later _ _ r⟩

/-! ### A payment is created -/

theorem createPayment_books (h : SalaryBooks none db) (hid : payment.id = db.freshPaymentId)
    (hexpense : payment.expenseId = none)
    (hfree : ∀ r ∈ db.payments, r.staffMemberId = payment.staffMemberId → r.day ≠ payment.day) :
    SalaryBooks (some payment.id) (db.createPayment payment) := by
  have hrows : ∀ r ∈ (db.createPayment payment).payments, r.expenseId.isSome → r ∈ db.payments := by
    intro r hr hsome
    rcases Ledger.mem_concat.1 hr with hr | hr
    · exact hr
    · rw [hr, hexpense] at hsome
      cases hsome
  refine ⟨KeyedRows.nodup_append _ h.ids ?_, KeyedRows.nodup_append _ h.days ?_, h.expenseIds,
    ?_, ?_, ?_, ?_⟩
  · rw [hid]
    exact freshId_not_mem _
  · intro hday
    obtain ⟨r, hr, heq⟩ := List.mem_map.1 hday
    exact hfree r hr (congrArg Prod.fst heq) (congrArg Prod.snd heq)
  · intro r hr id hlink
    exact h.linked r (hrows r hr (Option.isSome_iff_exists.2 ⟨id, hlink⟩)) id hlink
  · intro r hr r' hr' hsome heq
    exact h.distinct r (hrows r hr hsome) r' (hrows r' hr' (heq ▸ hsome)) hsome heq
  · intro e he
    obtain ⟨r, hr, hlink⟩ := h.used e he
    exact ⟨r, List.mem_append_left _ hr, hlink⟩
  · intro r hr hpaid howed
    rcases Ledger.mem_concat.1 hr with hr | hr
    · exact h.paid r hr hpaid (by simp)
    · exact absurd (congrArg (some ·.id) hr) howed

theorem findSalaryForDay_none {staffMemberId : String} {day : ℤ}
    (h : db.findSalaryForDay staffMemberId day = none) :
    ∀ r ∈ db.payments, r.staffMemberId = staffMemberId → r.day ≠ day := by
  intro r hr hstaff hday
  obtain ⟨hkeyed, hlegacy⟩ := Option.or_eq_none_iff.1 h
  rw [List.find?_eq_none] at hkeyed hlegacy
  have hkeyed := hkeyed r hr
  have hlegacy := hlegacy r hr
  rw [StaffSalaryPayment.day] at hday
  cases hscheduled : r.scheduledFor with
  | some scheduledFor =>
    rw [hscheduled, Option.getD_some] at hday
    simp [hstaff, hscheduled, hday] at hkeyed
  | none =>
    rw [hscheduled, Option.getD_none, salaryDay] at hday
    have hfrom : midnight day ≤ r.paymentDate := by
      rw [midnight]
      omega
    have hto : r.paymentDate < midnight day + 86400000 := by
      rw [midnight]
      omega
    simp [hstaff, hscheduled, hfrom, hto] at hlegacy

theorem findSalaryForDay_some {staffMemberId : String} {day : ℤ}
    (h : db.findSalaryForDay staffMemberId day = some r) :
    r ∈ db.payments ∧ r.staffMemberId = staffMemberId ∧ r.day = day := by
  rcases Option.or_eq_some_iff.1 h with hkeyed | ⟨_, hlegacy⟩
  · have hr := List.find?_some hkeyed
    rw [Bool.and_eq_true, decide_eq_true_iff, decide_eq_true_iff] at hr
    exact ⟨List.mem_of_find?_eq_some hkeyed, hr.1, by rw [StaffSalaryPayment.day, hr.2]; rfl⟩
  · have hr := List.find?_some hlegacy
    simp only [Bool.and_eq_true, decide_eq_true_iff] at hr
    obtain ⟨⟨⟨hstaff, hscheduled⟩, hfrom⟩, hto⟩ := hr
    refine ⟨List.mem_of_find?_eq_some hlegacy, hstaff, ?_⟩
    rw [StaffSalaryPayment.day, hscheduled, Option.getD_none, salaryDay]
    rw [midnight] at hfrom hto
    omega

/-! ### A payment is paid -/

/-- **A payment is paid**, and has its expense. -/
theorem payWith_step (h : SalaryBooks none db) (hr : r ∈ db.payments) (hlater : Later r payment)
    (hexpense : payment.expenseId = r.expenseId)
    (hrun : db.payWith storeId userId staff payment = .ok db') :
    SalaryStep (fun _ => False) db db' ∧ ∃ r' ∈ db'.payments, Later payment r' := by
  have hchange : ∀ r' ∈ db.payments, r'.id = payment.id →
      Later r' payment ∧ payment.expenseId = r'.expenseId := by
    intro r' hr' hid
    obtain rfl := h.eq_of_id hr' hr (hid.trans hlater.id)
    exact ⟨hlater, hexpense⟩
  have hmem : payment ∈ (db.updatePayment payment.id fun _ => payment).payments := by
    rw [updatePayment_payments]
    exact List.mem_map.2 ⟨r, hr, if_pos hlater.id.symm⟩
  have hlink := linkExpense_step (updatePayment_owed h hchange) hmem hrun
  have hrow : ∀ r' ∈ db.payments, Later r' (if r'.id = payment.id then payment else r') := by
    intro r' hr'
    split
    · rename_i hid
      exact (hchange r' hr' hid).1
    · exact .refl r'
  refine ⟨⟨hlink.books, hlink.staff, hlink.profiles, ?_, ?_⟩, hlink.kept payment hmem⟩
  · intro r' hr'
    obtain ⟨r'', hr'', hlater''⟩ := hlink.kept _ (List.mem_map_of_mem hr')
    exact ⟨r'', hr'', (hrow r' hr').trans hlater''⟩
  · intro r'' hr''
    rcases hlink.rows r'' hr'' with ⟨r', hr', hlater''⟩ | hnew
    · obtain ⟨r₀, hr₀, rfl⟩ := List.mem_map.1 hr'
      exact .inl ⟨r₀, hr₀, (hrow r₀ hr₀).trans hlater''⟩
    · exact hnew.elim

end SalaryDb

end Zomaal.Salary
