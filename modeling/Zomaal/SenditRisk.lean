/-
**What parcels say about their recipients.**

A parcel that is refused, or at which nobody is reached, counts once: when its row moves into that
status.  A page counts a snapshot that differs from the row, though a stale one does not change the
row and differs again the next time.

Main results:

* `Sendit.risk_outcomes` — **what is counted is what has moved**;
* `Sendit.risk_outcomes_stale` — what a stale page counts.
-/

import Zomaal.SenditChronology

set_option autoImplicit false

namespace Zomaal.Sendit

/-! ### What moves -/

def entersRisk (before : Option SenditShipment) (after : SenditShipment) : Bool :=
  isRisk after.normalizedStatus &&
    before.all fun row => row.normalizedStatus ≠ after.normalizedStatus

theorem entersRisk_iff {before after : SenditShipment} :
    entersRisk (some before) after = true ↔
      isRisk after.normalizedStatus = true ∧ before.normalizedStatus ≠ after.normalizedStatus := by
  rw [entersRisk, Option.all_some, Bool.and_eq_true, decide_eq_true_iff]

def entered (db db' : SenditDb) : ℕ :=
  db'.shipments.countP fun row => entersRisk (db.findShipment row.userId row.providerCode) row

def moves (directory : CustomerDirectory) (db : SenditDb) : List SenditAction → ℕ
  | [] => 0
  | action :: actions =>
    entered db (SenditAction.step directory db action) +
      moves directory (SenditAction.step directory db action) actions

def SenditAction.isSync : SenditAction → Bool
  | .created _ _ _ => false
  | _ => true

/-- **A snapshot that counts moves its row**: what is refused or unreachable, and not what the row
says, is not stale, and the row's status is another one. -/
def GenuineSnapshot (db : SenditDb) (userId : String) (snapshot : SenditSnapshot) : Prop :=
  isRisk snapshot.normalizedStatus = true →
    ∀ row ∈ db.findShipment userId snapshot.providerCode,
      SenditDb.statusChanged (some row) snapshot = true →
        SenditDb.shouldRefresh (some row) snapshot = true ∧
          row.normalizedStatus ≠ snapshot.normalizedStatus

instance (db : SenditDb) (userId : String) (snapshot : SenditSnapshot) :
    Decidable (GenuineSnapshot db userId snapshot) :=
  inferInstanceAs (Decidable (_ → ∀ row ∈ db.findShipment userId snapshot.providerCode, _ → _ ∧ _))

def Genuine (db : SenditDb) : SenditAction → Prop
  | .page userId deliveries =>
    (deliveries.map fun delivery => cleaned delivery.code).Nodup ∧
      ∀ page ∈ (deliveries.mapM providerDeliverySnapshot).toOption, ∀ snapshot ∈ page,
        GenuineSnapshot db userId snapshot
  | _ => True

instance (db : SenditDb) : (action : SenditAction) → Decidable (Genuine db action)
  | .page userId deliveries =>
    inferInstanceAs (Decidable ((deliveries.map fun delivery => cleaned delivery.code).Nodup ∧
      ∀ page ∈ (deliveries.mapM providerDeliverySnapshot).toOption, ∀ snapshot ∈ page,
        GenuineSnapshot db userId snapshot))
  | .created _ _ _ => inferInstanceAs (Decidable True)
  | .webhook _ _ => inferInstanceAs (Decidable True)

/-! ### The rows -/

/-- A row has a phone number, and its status is that of its texts. -/
structure RiskRow (row : SenditShipment) : Prop where
  phone : cleaned (some row.recipientPhone) ≠ none
  status : row.normalizedStatus = normalizeSenditStatus row.providerStatus row.providerReturnStatus ∨
    row.normalizedStatus = normalizeSenditStatus row.providerStatus none

structure RiskReady (directory : CustomerDirectory) (db : SenditDb) : Prop where
  keyed : db.Keyed
  book : db.book.Normalised directory
  rows : ∀ userId providerCode row, db.findShipment userId providerCode = some row → RiskRow row

theorem returnStatusMap_not_risk {code : String} {status : ShippingShipmentStatus}
    (h : returnStatusMap code = some status) : isRisk status = false := by
  unfold returnStatusMap at h
  split at h <;> first | (obtain rfl := Option.some.inj h; rfl) | cases h

theorem normalizeSenditStatus_risk {providerStatus : String} {providerReturnStatus : Option String}
    (h : isRisk (normalizeSenditStatus providerStatus providerReturnStatus) = true) :
    normalizeSenditStatus providerStatus none =
      normalizeSenditStatus providerStatus providerReturnStatus := by
  unfold normalizeSenditStatus at *
  cases hreturn : (normalizeCode providerReturnStatus).bind returnStatusMap with
  | none => rfl
  | some status =>
    rw [hreturn] at h
    obtain ⟨code, _, hcode⟩ := Option.bind_eq_some_iff.1 hreturn
    rw [show isRisk status = false from returnStatusMap_not_risk hcode] at h
    cases h

variable {snapshot : SenditSnapshot} {row : SenditShipment}

theorem RiskRow.same (h : RiskRow row) (hsame : SenditDb.statusChanged (some row) snapshot = false)
    (hrisk : isRisk snapshot.normalizedStatus = true) :
    row.normalizedStatus = snapshot.normalizedStatus := by
  rw [SenditDb.statusChanged, Option.all_some, Bool.or_eq_false_iff] at hsame
  obtain ⟨hstatus, hreturn⟩ := hsame
  have hstatus : row.providerStatus = snapshot.providerStatus := by simpa using hstatus
  have hreturn : row.providerReturnStatus = snapshot.providerReturnStatus := by
    simpa using hreturn
  have hnone := normalizeSenditStatus_risk hrisk
  rcases h.status with heq | heq
  · rw [heq, hstatus, hreturn]
    rfl
  · rw [heq, hstatus, hnone]
    rfl

variable {db : SenditDb} {userId : String}

theorem snapshotOutcome_iff
    (hrows : ∀ userId providerCode row, db.findShipment userId providerCode = some row → RiskRow row)
    (hgenuine : GenuineSnapshot db userId snapshot) (connectionId : String)
    (page : List SenditSnapshot) :
    (db.snapshotOutcome userId snapshot).isSome =
      entersRisk (db.findShipment userId snapshot.providerCode)
        (SenditDb.snapshotRow db userId connectionId page snapshot) := by
  have hsome : (db.snapshotOutcome userId snapshot).isSome =
      (SenditDb.statusChanged (db.findShipment userId snapshot.providerCode) snapshot &&
        isRisk snapshot.normalizedStatus) := by
    rw [SenditDb.snapshotOutcome]
    split
    · rename_i h
      exact h.symm
    · rename_i h
      exact (Bool.eq_false_iff.2 h).symm
  rw [hsome]
  cases hcurrent : db.findShipment userId snapshot.providerCode with
  | none =>
    rw [SenditDb.snapshotRow_new hcurrent]
    exact Bool.and_comm ..
  | some row =>
    by_cases hrefresh : SenditDb.shouldRefresh (some row) snapshot = true
    · rw [SenditDb.snapshotRow_fresh hcurrent hrefresh, Bool.eq_iff_iff, Bool.and_eq_true,
        entersRisk_iff]
      constructor
      · rintro ⟨hchanged, hrisk⟩
        exact ⟨hrisk, (hgenuine hrisk row hcurrent hchanged).2⟩
      · rintro ⟨hrisk, hne⟩
        refine ⟨?_, hrisk⟩
        cases hchanged : SenditDb.statusChanged (some row) snapshot with
        | true => rfl
        | false => exact absurd ((hrows _ _ row hcurrent).same hchanged hrisk) hne
    · rw [SenditDb.snapshotRow_stale hcurrent hrefresh, Bool.eq_iff_iff, Bool.and_eq_true,
        entersRisk_iff]
      constructor
      · rintro ⟨hchanged, hrisk⟩
        exact absurd (hgenuine hrisk row hcurrent hchanged).1 hrefresh
      · rintro ⟨_, hne⟩
        exact absurd rfl hne

/-! ### Counting a page -/

theorem entered_self (hkeyed : db.Keyed) : entered db db = 0 := by
  refine List.countP_eq_zero.2 fun row hrow hentered => ?_
  have hself : db.findShipment row.userId row.providerCode = some row :=
    KeyedRows.lookup_of_mem SenditShipment.key hkeyed hrow
  rw [hself, entersRisk_iff] at hentered
  exact hentered.2 rfl

variable {start : SenditDb}

theorem entered_change (hkeyed : db.Keyed)
    (hrow : db.findShipment row.userId row.providerCode = some row)
    (hread : start.findShipment row.userId row.providerCode = some row)
    {change : SenditShipment → SenditShipment} (hkey : ∀ row, (change row).key = row.key) :
    entered start { db with
        shipments := KeyedRows.change SenditShipment.key row.key change db.shipments } =
      entered start db + if entersRisk (some row) (change row) then 1 else 0 := by
  have hcount := KeyedRows.countP_change (f := change) SenditShipment.key
    (fun other => entersRisk (start.findShipment other.userId other.providerCode) other) hkeyed hrow
  obtain ⟨huser, hcode⟩ := Prod.mk.inj (hkey row)
  have hself : entersRisk (some row) row = false :=
    Bool.eq_false_iff.2 fun hentered => (entersRisk_iff.1 hentered).2 rfl
  rw [huser, hcode, hread, hself] at hcount
  exact hcount

theorem entered_create (hnew : start.findShipment row.userId row.providerCode = none) :
    entered start { db with shipments := db.shipments ++ [row] } =
      entered start db + if entersRisk none row then 1 else 0 := by
  unfold entered
  rw [List.countP_append, List.countP_singleton, hnew]

variable {page : List SenditSnapshot} {connectionId : String}

variable {db' : SenditDb}

theorem reconcileSnapshot_entered (hkeyed : db.Keyed)
    (hread : db.findShipment userId snapshot.providerCode =
      start.findShipment userId snapshot.providerCode)
    (h : SenditDb.reconcileSnapshot start userId connectionId page db snapshot = .ok db') :
    entered start db' = entered start db +
      if entersRisk (start.findShipment userId snapshot.providerCode)
        (SenditDb.snapshotRow start userId connectionId page snapshot) then 1 else 0 := by
  rw [SenditDb.reconcileSnapshot] at h
  cases hcurrent : start.findShipment userId snapshot.providerCode with
  | none =>
    rw [hcurrent] at h
    obtain ⟨_, rfl⟩ := SenditDb.createShipment_ok h
    rw [SenditDb.snapshotRow_new hcurrent]
    exact entered_create hcurrent
  | some current =>
    rw [hcurrent] at h hread
    obtain ⟨huser, hcode⟩ := Prod.mk.inj (SenditDb.findShipment_some hread).2
    dsimp only at h
    split at h
    · rename_i hrefresh
      obtain rfl := SenditDb.updateShipment_ok h
      rw [SenditDb.snapshotRow_fresh hcurrent hrefresh]
      have hrefreshed := SenditDb.refreshedRow_key connectionId
        (start.snapshotDispatch userId page snapshot) current snapshot
      refine entered_change hkeyed ?_ ?_ hrefreshed
      · rw [huser, hcode]
        exact hread
      · rw [huser, hcode]
        exact hcurrent
    · rename_i hstale
      obtain rfl := Except.ok.inj h
      rw [SenditDb.snapshotRow_stale hcurrent hstale,
        if_neg fun hentered => (entersRisk_iff.1 hentered).2 rfl]
      rfl

theorem reconcile_entered {rest : List SenditSnapshot} (hkeyed : db.Keyed)
    (hnodup : (rest.map SenditSnapshot.providerCode).Nodup)
    (hread : ∀ snapshot ∈ rest, db.findShipment userId snapshot.providerCode =
      start.findShipment userId snapshot.providerCode)
    (h : rest.foldlM (SenditDb.reconcileSnapshot start userId connectionId page) db = .ok db') :
    entered start db' = entered start db + rest.countP fun snapshot =>
      entersRisk (start.findShipment userId snapshot.providerCode)
        (SenditDb.snapshotRow start userId connectionId page snapshot) := by
  induction rest generalizing db with
  | nil =>
    obtain rfl := Except.ok.inj h
    rfl
  | cons snapshot rest ih =>
    rw [List.foldlM_cons] at h
    obtain ⟨db₁, hfirst, hrest⟩ := Except.bind_eq_ok h
    rw [List.map_cons, List.nodup_cons] at hnodup
    have hsnapshot := hread snapshot (List.mem_cons_self ..)
    obtain ⟨hkeyed₁, hrow⟩ := SenditDb.reconcileSnapshot_ok hkeyed hsnapshot hfirst
    rw [ih hkeyed₁ hnodup.2 (fun other hmem => ?_) hrest,
      reconcileSnapshot_entered hkeyed hsnapshot hfirst, List.countP_cons]
    · omega
    · rw [hrow, if_neg fun heq => ?_]
      · exact hread other (List.mem_cons_of_mem _ hmem)
      · exact hnodup.1 ((Prod.mk.inj heq).2 ▸ List.mem_map_of_mem hmem)

/-! ### Recording -/

def Counted (outcome : ShipmentOutcome) : Prop :=
  cleaned outcome.phone ≠ none ∧ (outcome.outcome = .refusals ∨ outcome.outcome = .noAnswer)

theorem riskOutcome_cases (status : ShippingShipmentStatus) :
    riskOutcome status = .refusals ∨ riskOutcome status = .noAnswer := by
  rw [riskOutcome]
  split
  · exact Or.inl rfl
  · exact Or.inr rfl

variable {directory : CustomerDirectory} {outcomes : List ShipmentOutcome}

theorem recordOutcomes_total (hlawful : directory.Lawful)
    (hstores : ∀ userId, (directory.requireStore userId).isSome)
    (hcounted : ∀ outcome ∈ outcomes, Counted outcome) {book : CustomerBook}
    (hbook : book.Normalised directory) :
    let recorded := outcomes.foldl
      (fun (book : CustomerBook) outcome => book.recordShipmentOutcome directory outcome) book
    recorded.Normalised directory ∧
      recorded.shipmentOutcomes = book.shipmentOutcomes + outcomes.length := by
  induction outcomes generalizing book with
  | nil => exact ⟨hbook, rfl⟩
  | cons outcome outcomes ih =>
    obtain ⟨hphone, hcategory⟩ := hcounted outcome (List.mem_cons_self ..)
    obtain ⟨hnormal, htotal⟩ := CustomerBook.recordShipmentOutcome_total hlawful hbook
      (hstores outcome.userId) hphone hcategory
    obtain ⟨hlast, hrest⟩ :=
      ih (fun other hmem => hcounted other (List.mem_cons_of_mem _ hmem)) hnormal
    refine ⟨hlast, hrest.trans ?_⟩
    rw [htotal, List.length_cons]
    omega

theorem reconcile_book {rest : List SenditSnapshot}
    (h : rest.foldlM (SenditDb.reconcileSnapshot start userId connectionId page) db = .ok db') :
    db'.book = db.book := by
  refine Except.foldlM_keeps (I := fun other => other.book = db.book) ?_ rfl h
  intro first snapshot second hfirst hsecond
  rw [SenditDb.reconcileSnapshot] at hsecond
  split at hsecond
  · obtain ⟨_, rfl⟩ := SenditDb.createShipment_ok hsecond
    exact hfirst
  · split at hsecond
    · obtain rfl := SenditDb.updateShipment_ok hsecond
      exact hfirst
    · obtain rfl := Except.ok.inj hsecond
      exact hfirst

variable {deliveries : List SenditDelivery} {counts : SenditDb.PageCounts}

theorem reconcileProviderPage_book
    (h : db.reconcileProviderPage userId deliveries = .ok (db', outcomes, counts)) :
    db'.book = db.book := by
  rw [SenditDb.reconcileProviderPage] at h
  obtain ⟨page, _, h⟩ := Except.bind_eq_ok h
  split at h
  · cases h
  · obtain ⟨db₁, hloop, h⟩ := Except.bind_eq_ok h
    obtain ⟨rfl, _⟩ := Prod.mk.inj (Except.ok.inj h)
    exact reconcile_book hloop

theorem snapshotRow_risk
    (hrows : ∀ userId providerCode row, db.findShipment userId providerCode = some row → RiskRow row)
    (hphone : cleaned (some snapshot.recipientPhone) = some snapshot.recipientPhone) :
    RiskRow (SenditDb.snapshotRow db userId connectionId page snapshot) := by
  have hnumber : cleaned (some snapshot.recipientPhone) ≠ none := by
    rw [hphone]
    exact Option.some_ne_none _
  rw [SenditDb.snapshotRow]
  split
  · exact ⟨hnumber, Or.inl rfl⟩
  · rename_i current hcurrent
    split
    · exact ⟨hnumber, Or.inl rfl⟩
    · exact hrows _ _ current hcurrent

theorem reconcileProviderPage_risk (hready : RiskReady directory db)
    (hgenuine : Genuine db (.page userId deliveries))
    (h : db.reconcileProviderPage userId deliveries = .ok (db', outcomes, counts)) :
    RiskReady directory db' ∧ db'.book = db.book ∧ entered db db' = outcomes.length ∧
      ∀ outcome ∈ outcomes, Counted outcome := by
  obtain ⟨hnodup, hsnapshot⟩ := hgenuine
  have hbook := reconcileProviderPage_book h
  rw [SenditDb.reconcileProviderPage] at h
  obtain ⟨page, hpage, h⟩ := Except.bind_eq_ok h
  rw [hpage] at hsnapshot
  have hsnapshot := hsnapshot page rfl
  have hof := snapshots_ok hpage
  have hcodes := snapshots_nodup hof hnodup
  split at h
  · cases h
  · rename_i connectionId hconnection
    obtain ⟨db₁, hloop, h⟩ := Except.bind_eq_ok h
    obtain ⟨rfl, hrest⟩ := Prod.mk.inj (Except.ok.inj h)
    obtain ⟨rfl, _⟩ := Prod.mk.inj hrest
    obtain ⟨hkeyed', hlisted, hframe⟩ :=
      SenditDb.reconcile_ok hready.keyed hcodes (fun _ _ => rfl) hloop
    refine ⟨⟨hkeyed', hbook ▸ hready.book, fun user code row hrow => ?_⟩, hbook, ?_, ?_⟩
    · by_cases hmine : user = userId ∧ code ∈ page.map SenditSnapshot.providerCode
      · obtain ⟨rfl, hcode⟩ := hmine
        obtain ⟨snapshot, hmem, rfl⟩ := List.mem_map.1 hcode
        obtain ⟨_, _, hdelivery⟩ := snapshot_mem hof hmem
        obtain rfl := Option.some.inj ((hlisted snapshot hmem).symm.trans hrow)
        exact snapshotRow_risk hready.rows hdelivery.phone
      · rw [hframe user code fun hu hc => hmine ⟨hu, hc⟩] at hrow
        exact hready.rows user code row hrow
    · rw [reconcile_entered hready.keyed hcodes (fun _ _ => rfl) hloop, entered_self hready.keyed,
        Nat.zero_add, List.length_filterMap_eq_countP]
      refine List.countP_congr fun snapshot hmem => ?_
      rw [snapshotOutcome_iff hready.rows (hsnapshot snapshot hmem) connectionId page]
    · intro outcome hmem
      obtain ⟨snapshot, hlisted, houtcome⟩ := List.mem_filterMap.1 hmem
      obtain ⟨_, _, hdelivery⟩ := snapshot_mem hof hlisted
      rw [SenditDb.snapshotOutcome] at houtcome
      split at houtcome
      · obtain rfl := Option.some.inj houtcome
        refine ⟨?_, riskOutcome_cases _⟩
        dsimp only
        rw [hdelivery.phone]
        exact Option.some_ne_none _
      · cases houtcome

theorem processStatusWebhook_risk (hready : RiskReady directory db) {signature : SenditSignature}
    {event : SenditStatusWebhook} {outcome : Option ShipmentOutcome}
    (h : db.processStatusWebhook signature event = .ok (db', outcome)) :
    RiskReady directory db' ∧ db'.book = db.book ∧ entered db db' = outcome.toList.length ∧
      ∀ other ∈ outcome.toList, Counted other := by
  obtain ⟨shipment, eventAt, hmem, _, _, ⟨_, rfl, rfl⟩ | ⟨_, rfl, rfl⟩⟩ :=
    SenditDb.processStatusWebhook_ok h
  · have hself : db.findShipment shipment.userId shipment.providerCode = some shipment :=
      KeyedRows.lookup_of_mem SenditShipment.key hready.keyed hmem
    have hkey : ∀ row, (event.appliedRow eventAt row).key = row.key := fun _ => rfl
    refine ⟨⟨hready.keyed.change hkey _, hready.book, fun user code row hrow => ?_⟩, rfl, ?_, ?_⟩
    · rw [SenditDb.findShipment_change hkey] at hrow
      obtain ⟨old, hold, rfl⟩ := Option.map_eq_some_iff.1 hrow
      have hrisk := hready.rows user code old hold
      split
      · exact ⟨hrisk.phone, Or.inr rfl⟩
      · exact hrisk
    · rw [entered_change hready.keyed hself hself hkey, entered_self hready.keyed, Nat.zero_add,
        SenditStatusWebhook.outcome]
      have hstatus : (event.appliedRow eventAt shipment).normalizedStatus =
        normalizeSenditStatus event.newStatus none := rfl
      split
      · rename_i hentered
        obtain ⟨hrisk, hne⟩ := entersRisk_iff.1 hentered
        rw [hstatus] at hrisk hne
        rw [if_pos (Bool.and_eq_true_iff.2 ⟨decide_eq_true hne, hrisk⟩)]
        rfl
      · rename_i hnot
        rw [if_neg fun hboth => hnot ?_]
        · rfl
        · obtain ⟨hne, hrisk⟩ := Bool.and_eq_true_iff.1 hboth
          exact entersRisk_iff.2 ⟨hrisk, of_decide_eq_true hne⟩
    · intro other hother
      rw [SenditStatusWebhook.outcome] at hother
      split at hother
      · obtain rfl := List.mem_singleton.1 hother
        exact ⟨(hready.rows _ _ shipment hself).phone, riskOutcome_cases _⟩
      · cases hother
  · exact ⟨hready, rfl, entered_self hready.keyed, fun _ hother => nomatch hother⟩

theorem SenditAction.step_risk (hlawful : directory.Lawful)
    (hstores : ∀ userId, (directory.requireStore userId).isSome) (hready : RiskReady directory db)
    {action : SenditAction} (hsync : action.isSync = true) (hgenuine : Genuine db action) :
    RiskReady directory (SenditAction.step directory db action) ∧
      (SenditAction.step directory db action).book.shipmentOutcomes =
        db.book.shipmentOutcomes + entered db (SenditAction.step directory db action) := by
  have hidle : db.book.shipmentOutcomes = db.book.shipmentOutcomes + entered db db := by
    rw [entered_self hready.keyed]
    rfl
  have hrecord : ∀ {db' : SenditDb} {outcomes : List ShipmentOutcome},
      RiskReady directory db' ∧ db'.book = db.book ∧ entered db db' = outcomes.length ∧
        (∀ outcome ∈ outcomes, Counted outcome) →
      RiskReady directory (db'.recordOutcomes directory outcomes) ∧
        (db'.recordOutcomes directory outcomes).book.shipmentOutcomes =
          db.book.shipmentOutcomes + entered db (db'.recordOutcomes directory outcomes) := by
    rintro db' outcomes ⟨hready', hbook, hentered, hcounted⟩
    obtain ⟨hnormal, htotal⟩ := recordOutcomes_total hlawful hstores hcounted hready'.book
    refine ⟨⟨hready'.keyed, hnormal, hready'.rows⟩, htotal.trans ?_⟩
    rw [hbook, ← hentered]
    rfl
  cases action with
  | created userId request delivery => cases hsync
  | page userId deliveries =>
    rw [SenditAction.step]
    split
    · rename_i db' outcomes counts hpage
      exact hrecord (reconcileProviderPage_risk hready hgenuine hpage)
    · exact ⟨hready, hidle⟩
  | webhook signature event =>
    rw [SenditAction.step]
    split
    · rename_i db' outcome hwebhook
      exact hrecord (processStatusWebhook_risk hready hwebhook)
    · exact ⟨hready, hidle⟩

theorem SenditDb.run_risk (hlawful : directory.Lawful)
    (hstores : ∀ userId, (directory.requireStore userId).isSome) (hready : RiskReady directory db)
    {actions : List SenditAction} (hsync : ∀ action ∈ actions, action.isSync = true)
    (hgenuine : Machine.Along (SenditAction.step directory) Genuine db actions) :
    RiskReady directory (Machine.run (SenditAction.step directory) db actions) ∧
      (Machine.run (SenditAction.step directory) db actions).book.shipmentOutcomes =
        db.book.shipmentOutcomes + moves directory db actions := by
  induction actions generalizing db with
  | nil => exact ⟨hready, rfl⟩
  | cons action actions ih =>
    obtain ⟨hready', hfirst⟩ := SenditAction.step_risk hlawful hstores hready
      (hsync action (List.mem_cons_self ..)) hgenuine.1
    obtain ⟨hlast, hrest⟩ :=
      ih hready' (fun other hmem => hsync other (List.mem_cons_of_mem _ hmem)) hgenuine.2
    refine ⟨hlast, hrest.trans ?_⟩
    rw [hfirst, moves, Nat.add_assoc]

theorem reconcileProviderPage_again {db'' : SenditDb} (hready : RiskReady directory db)
    {outcomes' : List ShipmentOutcome} {counts' : SenditDb.PageCounts}
    (hgenuine : Genuine db (.page userId deliveries))
    (h : db.reconcileProviderPage userId deliveries = .ok (db', outcomes, counts))
    (hagain : (db'.recordOutcomes directory outcomes).reconcileProviderPage userId deliveries =
      .ok (db'', outcomes', counts')) : outcomes' = [] := by
  obtain ⟨hnodup, hsnapshot⟩ := hgenuine
  rw [SenditDb.reconcileProviderPage] at h hagain
  obtain ⟨page, hpage, h⟩ := Except.bind_eq_ok h
  obtain ⟨page', hpage', hagain⟩ := Except.bind_eq_ok hagain
  obtain rfl := Except.ok.inj (hpage.symm.trans hpage')
  rw [hpage] at hsnapshot
  have hsnapshot := hsnapshot page rfl
  have hcodes := snapshots_nodup (snapshots_ok hpage) hnodup
  split at h
  · cases h
  · rename_i connectionId hconnection
    obtain ⟨db₁, hloop, h⟩ := Except.bind_eq_ok h
    obtain ⟨rfl, _⟩ := Prod.mk.inj (Except.ok.inj h)
    obtain ⟨_, hlisted, _⟩ := SenditDb.reconcile_ok hready.keyed hcodes (fun _ _ => rfl) hloop
    split at hagain
    · cases hagain
    · obtain ⟨db₂, _, hagain⟩ := Except.bind_eq_ok hagain
      obtain ⟨_, hrest⟩ := Prod.mk.inj (Except.ok.inj hagain)
      obtain ⟨rfl, _⟩ := Prod.mk.inj hrest
      refine List.filterMap_eq_nil_iff.2 fun snapshot hmem => ?_
      have hrow : (db₁.recordOutcomes directory outcomes).findShipment userId
          snapshot.providerCode = some (SenditDb.snapshotRow db userId connectionId page snapshot) :=
        hlisted snapshot hmem
      rw [SenditDb.snapshotOutcome, hrow]
      refine if_neg fun hboth => ?_
      obtain ⟨hchanged, hrisk⟩ := Bool.and_eq_true_iff.1 hboth
      -- what the page has written it does not find changed
      have hsame : ∀ row : SenditShipment, row.providerStatus = snapshot.providerStatus →
          row.providerReturnStatus = snapshot.providerReturnStatus →
            SenditDb.statusChanged (some row) snapshot = false := by
        intro row hstatus hreturn
        simp [SenditDb.statusChanged, hstatus, hreturn]
      cases hcurrent : db.findShipment userId snapshot.providerCode with
      | none =>
        rw [SenditDb.snapshotRow_new hcurrent, hsame _ rfl rfl] at hchanged
        cases hchanged
      | some current =>
        by_cases hrefresh : SenditDb.shouldRefresh (some current) snapshot = true
        · rw [SenditDb.snapshotRow_fresh hcurrent hrefresh, hsame _ rfl rfl] at hchanged
          cases hchanged
        · rw [SenditDb.snapshotRow_stale hcurrent hrefresh] at hchanged
          exact hrefresh (hsnapshot snapshot hmem hrisk current hcurrent hchanged).1

/-- **The refusals and the parcels nobody answered for** are counted as often as a row has moved into
such a status, and a page that is synced again counts nothing. -/
theorem risk_outcomes {directory : CustomerDirectory} (hlawful : directory.Lawful)
    (hstores : ∀ userId, (directory.requireStore userId).isSome) {db : SenditDb}
    (hready : RiskReady directory db) {actions : List SenditAction}
    (hsync : ∀ action ∈ actions, action.isSync = true)
    (hgenuine : Machine.Along (SenditAction.step directory) Genuine db actions) :
    (Machine.run (SenditAction.step directory) db actions).book.shipmentOutcomes =
        db.book.shipmentOutcomes + moves directory db actions ∧
      ∀ earlier userId deliveries later, actions = earlier ++ .page userId deliveries :: later →
        let synced := Machine.run (SenditAction.step directory) db
          (earlier ++ [.page userId deliveries])
        (SenditAction.step directory synced (.page userId deliveries)).book.shipmentOutcomes =
          synced.book.shipmentOutcomes := by
  refine ⟨(SenditDb.run_risk hlawful hstores hready hsync hgenuine).2, ?_⟩
  rintro earlier userId deliveries later rfl synced
  obtain ⟨hfirst, hrest⟩ := Machine.Along.append.1 hgenuine
  have hbefore := (SenditDb.run_risk hlawful hstores hready
    (fun action hmem => hsync action (List.mem_append_left _ hmem)) hfirst).1
  have hsynced : synced = SenditAction.step directory
      (Machine.run (SenditAction.step directory) db earlier) (.page userId deliveries) :=
    Machine.run_append ..
  generalize Machine.run (SenditAction.step directory) db earlier = reached at *
  rw [hsynced, SenditAction.step, SenditAction.step]
  cases hpage : reached.reconcileProviderPage userId deliveries with
  | error error =>
    dsimp only
    rw [hpage]
  | ok result =>
    obtain ⟨db', outcomes, counts⟩ := result
    dsimp only
    cases hagain : (db'.recordOutcomes directory outcomes).reconcileProviderPage userId
        deliveries with
    | error error => rfl
    | ok result =>
      obtain ⟨db'', outcomes', counts'⟩ := result
      have hnone := reconcileProviderPage_again hbefore hrest.1 hpage hagain
      dsimp only
      rw [hnone, SenditDb.recordOutcomes, List.foldl_nil, reconcileProviderPage_book hagain]

/-! ### A parcel that is refused -/

theorem plainDirectory_lawful : plainDirectory.Lawful :=
  ⟨fun _ _ _ _ => rfl, fun _ _ _ _ => ⟨_, rfl, rfl⟩⟩

theorem connectedDb_ready : RiskReady plainDirectory connectedDb :=
  ⟨List.nodup_nil, ⟨List.nodup_nil, fun _ hmem => nomatch hmem⟩, fun _ _ _ hrow => nomatch hrow⟩

def refusedRun : List SenditAction :=
  [pageWith "TRANSIT" 5, webhookWith "UNREACHABLE" 6, pageWith "UNREACHABLE" 6,
    pageWith "TRANSIT" 5, webhookWith "REJECTED" 8, pageWith "REJECTED" 8, pageWith "REJECTED" 8]

theorem risk_outcomes_refusedRun :
    (Machine.run (SenditAction.step plainDirectory) connectedDb
      refusedRun).book.shipmentOutcomes = 2 := by
  have hcounted := (@risk_outcomes plainDirectory plainDirectory_lawful (fun _ => rfl) connectedDb
    connectedDb_ready refusedRun (by decide) (by decide +kernel)).1
  rw [hcounted]
  decide +kernel

/-- The parcel is on its way, and a page that is older than its row, and says that it was refused, is
synced twice. -/
def staleRun : List SenditAction :=
  [pageWith "TRANSIT" 5, pageWith "REJECTED" 4, pageWith "REJECTED" 4]

/-- **Two refusals are counted, and none has happened.** -/
theorem risk_outcomes_stale :
    ¬ ∀ (directory : CustomerDirectory) (db : SenditDb) (actions : List SenditAction),
      directory.Lawful → (∀ userId, (directory.requireStore userId).isSome) →
      RiskReady directory db → (∀ action ∈ actions, action.isSync = true) →
      (Machine.run (SenditAction.step directory) db actions).book.shipmentOutcomes =
        db.book.shipmentOutcomes + moves directory db actions := by
  intro h
  have hcounted := h plainDirectory connectedDb staleRun plainDirectory_lawful (fun _ => rfl)
    connectedDb_ready (by decide)
  revert hcounted
  decide +kernel

end Zomaal.Sendit
