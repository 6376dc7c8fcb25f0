/-
**A parcel's row over time.**

As long as the answer to a create request is not behind a row that is there already, and a page does
not list a parcel twice, a terminal status is never reopened, the last action never goes back or is
lost, and a snapshot that is older than the row changes nothing in it.

Main results:

* `Sendit.shipment_chronology` — **the row moves forwards**;
* `Sendit.shipment_chronology_created_again` — what a create request does to a parcel that was
  delivered.
-/

import Zomaal.MachineRun
import Zomaal.SenditShipments

set_option autoImplicit false

namespace Zomaal.Sendit

/-! ### Times -/

def isBefore : Option ℤ → Option ℤ → Bool
  | some a, some b => a < b
  | _, _ => false

structure SnapshotTimes where
  lastActionAt : Option ℤ
  updatedAt : Option ℤ

def SenditShipment.isOlder (row : SenditShipment) (times : SnapshotTimes) : Bool :=
  isBefore times.lastActionAt row.lastActionAt ||
    isBefore times.updatedAt (row.providerUpdatedAt.or row.lastActionAt)

def SenditDelivery.times (delivery : SenditDelivery) : SnapshotTimes :=
  { lastActionAt := delivery.lastActionAt
    updatedAt := delivery.updatedAt.or delivery.lastActionAt }

/-- The snapshots of a parcel that a call comes with; a webhook tells of an action only. -/
def SenditAction.times (userId providerCode : String) : SenditAction → List SnapshotTimes
  | .created user _ delivery =>
    if user = userId ∧ cleaned delivery.code = some providerCode then [delivery.times] else []
  | .page user deliveries =>
    if user = userId then
      (deliveries.filter fun delivery => cleaned delivery.code = some providerCode).map
        SenditDelivery.times
    else []
  | .webhook _ event =>
    if event.code = providerCode then
      [{ lastActionAt := event.lastActionAt, updatedAt := none }]
    else []

/-- **The calls that are in order**: an answer to a create request is not behind the parcel's row, if
there is one, and a page lists no parcel twice. -/
def InOrder (db : SenditDb) : SenditAction → Prop
  | .created userId _ delivery =>
    ∀ row ∈ (cleaned delivery.code).bind (db.findShipment userId),
      Chronological row.normalizedStatus
          (normalizeSenditStatus ((cleaned delivery.status).getD "PENDING")
            (cleaned delivery.statusReturn))
          row.lastActionAt delivery.lastActionAt ∧
        row.isOlder delivery.times = false
  | .page _ deliveries => (deliveries.map fun delivery => cleaned delivery.code).Nodup
  | .webhook _ _ => True

instance (db : SenditDb) : (action : SenditAction) → Decidable (InOrder db action)
  | .created userId _ delivery =>
    inferInstanceAs (Decidable (∀ row ∈ (cleaned delivery.code).bind (db.findShipment userId),
      _ ∧ _))
  | .page _ deliveries =>
    inferInstanceAs (Decidable (deliveries.map fun delivery => cleaned delivery.code).Nodup)
  | .webhook _ _ => inferInstanceAs (Decidable True)

/-! ### One call -/

/-- A row moves on, and stays as it is when what the call comes with is older. -/
def RowStep (older : Prop) (row row' : SenditShipment) : Prop :=
  Chronological row.normalizedStatus row'.normalizedStatus row.lastActionAt row'.lastActionAt ∧
    (older → row' = row)

theorem RowStep.refl (older : Prop) (row : SenditShipment) : RowStep older row row :=
  ⟨Chronological.refl _ _, fun _ => rfl⟩

theorem shouldRefresh_inOrder {row : SenditShipment} {snapshot : SenditSnapshot}
    (h : SenditDb.shouldRefresh (some row) snapshot = true) :
    Chronological row.normalizedStatus snapshot.normalizedStatus row.lastActionAt
        (snapshot.lastActionAt.or row.lastActionAt) ∧
      row.isOlder
        { lastActionAt := snapshot.lastActionAt
          updatedAt := snapshot.providerUpdatedAt.or snapshot.lastActionAt } = false := by
  rw [SenditDb.shouldRefresh, Bool.and_eq_true, Bool.not_eq_true', Option.map_some,
    Option.bind_some] at h
  obtain ⟨hstale, hlast⟩ := h
  obtain ⟨hterminal, hupdated⟩ := staleShipmentStatus_eq_false hstale
  have hle : ∀ b, row.lastActionAt = some b → ∃ a, snapshot.lastActionAt = some a ∧ b ≤ a := by
    intro b hb
    rw [hb] at hlast
    obtain ⟨a, ha, hab⟩ := (Option.any_eq_true _ _).1 hlast
    exact ⟨a, ha, of_decide_eq_true hab⟩
  refine ⟨⟨hterminal, ?_⟩, ?_⟩
  · cases hb : row.lastActionAt with
    | none => trivial
    | some b =>
      obtain ⟨a, ha, hab⟩ := hle b hb
      rw [ha]
      exact hab
  · rw [SenditShipment.isOlder, Bool.or_eq_false_iff]
    refine ⟨?_, ?_⟩
    · cases ha : snapshot.lastActionAt with
      | none => rfl
      | some a =>
        cases hb : row.lastActionAt with
        | none => rfl
        | some b =>
          obtain ⟨a', ha', hab⟩ := hle b hb
          obtain rfl := Option.some.inj (ha.symm.trans ha')
          simpa [isBefore] using hab
    · cases ha : snapshot.providerUpdatedAt.or snapshot.lastActionAt with
      | none => rfl
      | some a =>
        cases hb : row.providerUpdatedAt.or row.lastActionAt with
        | none => rfl
        | some b => simpa [isBefore] using hupdated a b ha hb

/-- What a call does to the rows: each moves on, and what is older than a row leaves it alone. -/
def Advances (action : SenditAction) (db db' : SenditDb) : Prop :=
  db'.Keyed ∧ ∀ userId providerCode row, db.findShipment userId providerCode = some row →
    ∃ row', db'.findShipment userId providerCode = some row' ∧
      RowStep (∀ times ∈ action.times userId providerCode, row.isOlder times = true) row row'

variable {db : SenditDb}

theorem Advances.refl (hkeyed : db.Keyed) (action : SenditAction) : Advances action db db :=
  ⟨hkeyed, fun _ _ row hrow => ⟨row, hrow, RowStep.refl _ row⟩⟩

theorem persistCreatedDelivery_advances {db' : SenditDb} (hkeyed : db.Keyed) {userId : String}
    {request : SenditDeliveryDto} {delivery : SenditDelivery}
    (horder : InOrder db (.created userId request delivery))
    (h : db.persistCreatedDelivery userId request delivery = .ok db') :
    Advances (.created userId request delivery) db db' := by
  rw [SenditDb.persistCreatedDelivery] at h
  obtain ⟨code, hcode, h⟩ := Except.bind_eq_ok h
  have hclean := requiredString_ok hcode
  dsimp only at h
  split at h
  · obtain rfl := SenditDb.updateShipment_ok h
    generalize hchange : SenditDb.createdRow request delivery (db.connections userId)
      ((db.findDispatch userId ((cleaned delivery.reference).or request.reference)).map
        SenditDispatch.id) = change
    have hkey : ∀ row, (change row).key = row.key := fun row => hchange ▸ rfl
    refine ⟨hkeyed.change hkey _, fun user providerCode row hrow => ?_⟩
    rw [SenditDb.findShipment_change hkey, hrow, Option.map_some]
    refine ⟨_, rfl, ?_⟩
    split
    · rename_i hmine
      obtain ⟨rfl, rfl⟩ := Prod.mk.inj hmine
      have hstored : row ∈ (cleaned delivery.code).bind (db.findShipment user) := by
        rw [hclean]
        exact hrow
      obtain ⟨hchronological, hfresh⟩ := horder row hstored
      refine ⟨by rw [← hchange]; exact hchronological, fun holder => ?_⟩
      have hstale := holder delivery.times (by simp [SenditAction.times, hclean])
      rw [hfresh] at hstale
      cases hstale
    · exact RowStep.refl _ row
  · obtain ⟨hfree, rfl⟩ := SenditDb.createShipment_ok h
    refine ⟨hkeyed.create hfree, fun user providerCode row hrow => ⟨row, ?_, RowStep.refl _ row⟩⟩
    rw [SenditDb.findShipment_create hfree, if_neg ?_]
    · exact hrow
    · intro hmine
      obtain ⟨hu, hc⟩ := Prod.mk.inj hmine
      rw [hu, hc, hfree] at hrow
      cases hrow

theorem reconcileProviderPage_advances {db' : SenditDb} (hkeyed : db.Keyed) {userId : String}
    {deliveries : List SenditDelivery} {outcomes : List ShipmentOutcome}
    {counts : SenditDb.PageCounts} (horder : InOrder db (.page userId deliveries))
    (h : db.reconcileProviderPage userId deliveries = .ok (db', outcomes, counts)) :
    Advances (.page userId deliveries) db db' := by
  rw [SenditDb.reconcileProviderPage] at h
  obtain ⟨page, hpage, h⟩ := Except.bind_eq_ok h
  have hsnapshots := snapshots_ok hpage
  split at h
  · cases h
  · rename_i connectionId hconnection
    obtain ⟨db₁, hloop, h⟩ := Except.bind_eq_ok h
    obtain ⟨rfl, _⟩ := Prod.mk.inj (Except.ok.inj h)
    obtain ⟨hkeyed', hrows, hframe⟩ := SenditDb.reconcile_ok hkeyed
      (snapshots_nodup hsnapshots horder) (fun _ _ => rfl) hloop
    refine ⟨hkeyed', fun user code row hrow => ?_⟩
    by_cases hlisted : user = userId ∧ code ∈ page.map SenditSnapshot.providerCode
    · obtain ⟨rfl, hcode⟩ := hlisted
      obtain ⟨snapshot, hmem, rfl⟩ := List.mem_map.1 hcode
      obtain ⟨delivery, hdelivery, hof⟩ := snapshot_mem hsnapshots hmem
      refine ⟨_, hrows snapshot hmem, ?_⟩
      rw [SenditDb.snapshotRow, hrow]
      dsimp only
      split
      · rename_i hrefresh
        obtain ⟨hchronological, hfresh⟩ := shouldRefresh_inOrder hrefresh
        refine ⟨hchronological, fun holder => ?_⟩
        have hstale := holder delivery.times ?_
        · rw [hof.lastActionAt, hof.updatedAt] at hfresh
          rw [SenditDelivery.times, hfresh] at hstale
          cases hstale
        · rw [SenditAction.times, if_pos rfl]
          exact List.mem_map_of_mem (List.mem_filter.2 ⟨hdelivery, decide_eq_true hof.code⟩)
      · exact RowStep.refl _ row
    · exact ⟨row, (hframe user code fun hu hc => hlisted ⟨hu, hc⟩).trans hrow, RowStep.refl _ row⟩

theorem processStatusWebhook_advances {db' : SenditDb} (hkeyed : db.Keyed)
    {signature : SenditSignature} {event : SenditStatusWebhook} {outcome : Option ShipmentOutcome}
    (h : db.processStatusWebhook signature event = .ok (db', outcome)) :
    Advances (.webhook signature event) db db' := by
  obtain ⟨shipment, eventAt, hmem, hcode, hat, ⟨happlies, rfl, _⟩ | ⟨_, rfl, _⟩⟩ :=
    SenditDb.processStatusWebhook_ok h
  · have hself : db.findShipment shipment.userId shipment.providerCode = some shipment :=
      KeyedRows.lookup_of_mem SenditShipment.key hkeyed hmem
    have hkey : ∀ row, (event.appliedRow eventAt row).key = row.key := fun _ => rfl
    refine ⟨hkeyed.change hkey _, fun user code row hrow => ?_⟩
    rw [SenditDb.findShipment_change hkey, hrow, Option.map_some]
    refine ⟨_, rfl, ?_⟩
    split
    · rename_i hmine
      obtain ⟨rfl, rfl⟩ := Prod.mk.inj hmine
      obtain rfl := Option.some.inj (hself.symm.trans hrow)
      rw [SenditStatusWebhook.applies, Bool.and_eq_true] at happlies
      obtain ⟨hfilter, hlast⟩ := happlies
      have hle : ∀ b, shipment.lastActionAt = some b → b ≤ eventAt := by
        intro b hb
        rw [hb, Option.all_some] at hlast
        exact of_decide_eq_true hlast
      refine ⟨⟨fun hterminal => ?_, ?_⟩, fun holder => ?_⟩
      · rw [terminalRegressionFilter, hterminal] at hfilter
        have hnext : (normalizeSenditStatus event.newStatus none).isTerminal = true := by
          simpa using hfilter
        exact hnext
      · cases hb : shipment.lastActionAt with
        | none => trivial
        | some b => exact hle b hb
      · have hstale := holder { lastActionAt := event.lastActionAt, updatedAt := none }
          (by rw [SenditAction.times, if_pos hcode.symm]; exact List.mem_singleton.2 rfl)
        rw [hat] at hstale
        cases hb : shipment.lastActionAt with
        | none => simp [SenditShipment.isOlder, isBefore, hb] at hstale
        | some b =>
          have hnot := hle b hb
          simp only [SenditShipment.isOlder, isBefore, hb, Bool.or_false,
            decide_eq_true_eq] at hstale
          omega
    · exact RowStep.refl _ row
  · exact Advances.refl hkeyed _

theorem SenditAction.step_advances (directory : CustomerDirectory) (hkeyed : db.Keyed)
    {action : SenditAction} (horder : InOrder db action) :
    Advances action db (SenditAction.step directory db action) := by
  cases action with
  | created userId request delivery =>
    rw [SenditAction.step]
    split
    · exact persistCreatedDelivery_advances hkeyed horder ‹_›
    · exact Advances.refl hkeyed _
  | page userId deliveries =>
    rw [SenditAction.step]
    split
    · rename_i db' outcomes counts hpage
      have hadvances := reconcileProviderPage_advances hkeyed horder hpage
      exact hadvances
    · exact Advances.refl hkeyed _
  | webhook signature event =>
    rw [SenditAction.step]
    split
    · rename_i db' outcome hwebhook
      have hadvances := processStatusWebhook_advances hkeyed hwebhook
      exact hadvances
    · exact Advances.refl hkeyed _

theorem SenditDb.run_advances (directory : CustomerDirectory) (hkeyed : db.Keyed)
    {actions : List SenditAction}
    (horder : Machine.Along (SenditAction.step directory) InOrder db actions) :
    (Machine.run (SenditAction.step directory) db actions).Keyed ∧
      ∀ userId providerCode row, db.findShipment userId providerCode = some row →
        ∃ row', (Machine.run (SenditAction.step directory) db actions).findShipment userId
            providerCode = some row' ∧
          Chronological row.normalizedStatus row'.normalizedStatus row.lastActionAt
            row'.lastActionAt := by
  induction actions generalizing db with
  | nil => exact ⟨hkeyed, fun _ _ row hrow => ⟨row, hrow, Chronological.refl _ _⟩⟩
  | cons action actions ih =>
    obtain ⟨hkeyed', hstep⟩ := SenditAction.step_advances directory hkeyed horder.1
    obtain ⟨hlast, hrun⟩ := ih hkeyed' horder.2
    refine ⟨hlast, fun userId providerCode row hrow => ?_⟩
    obtain ⟨row₁, hrow₁, hfirst, _⟩ := hstep userId providerCode row hrow
    obtain ⟨row', hrow', hrest⟩ := hrun userId providerCode row₁ hrow₁
    exact ⟨row', hrow', hfirst.trans hrest⟩

/-- **The row of a parcel moves forwards**: a terminal status stays terminal, the last action never
goes back or is lost, and what is older than the row leaves it alone. -/
theorem shipment_chronology (directory : CustomerDirectory) {db : SenditDb} (hkeyed : db.Keyed)
    {actions : List SenditAction}
    (horder : Machine.Along (SenditAction.step directory) InOrder db actions) :
    (∀ earlier later, actions = earlier ++ later →
      ∀ userId providerCode row,
        (Machine.run (SenditAction.step directory) db earlier).findShipment userId providerCode =
          some row →
        ∃ row', (Machine.run (SenditAction.step directory) db actions).findShipment userId
            providerCode = some row' ∧
          Chronological row.normalizedStatus row'.normalizedStatus row.lastActionAt
            row'.lastActionAt) ∧
      ∀ earlier action later, actions = earlier ++ action :: later →
        ∀ userId providerCode row,
          (Machine.run (SenditAction.step directory) db earlier).findShipment userId providerCode =
            some row →
          (∀ times ∈ action.times userId providerCode, row.isOlder times = true) →
          (SenditAction.step directory (Machine.run (SenditAction.step directory) db earlier)
            action).findShipment userId providerCode = some row := by
  refine ⟨?_, ?_⟩
  · rintro earlier later rfl userId providerCode row hrow
    obtain ⟨hfirst, hrest⟩ := Machine.Along.append.1 horder
    have hkeyed' := (SenditDb.run_advances directory hkeyed hfirst).1
    rw [Machine.run_append]
    exact (SenditDb.run_advances directory hkeyed' hrest).2 userId providerCode row hrow
  · rintro earlier action later rfl userId providerCode row hrow holder
    obtain ⟨hfirst, hrest⟩ := Machine.Along.append.1 horder
    have hkeyed' := (SenditDb.run_advances directory hkeyed hfirst).1
    obtain ⟨_, hstep⟩ := SenditAction.step_advances directory hkeyed' hrest.1
    obtain ⟨row', hrow', _, hsame⟩ := hstep userId providerCode row hrow
    rw [hrow', hsame holder]

/-! ### A parcel that is delivered -/

def plainDirectory : CustomerDirectory :=
  { requireStore := fun _ => some "store"
    customerPhoneIdentity := fun _ phone => some { phone, digitAliases := [digitsOf phone] } }

variable (status : String)

def createParcel (lastActionAt : ℤ) : SenditAction :=
  .created "user"
    { name := "Sara", phone := "0612345678", address := "Maarif", pickupDistrictId := 1
      districtId := 58, amount := 300 }
    { code := some "DH-1", status := some status, lastActionAt := some lastActionAt }

def pageWith (lastActionAt : ℤ) : SenditAction :=
  .page "user"
    [{ code := some "DH-1", status := some status, name := some "Sara"
       phone := some "0612345678", lastActionAt := some lastActionAt }]

def webhookWith (lastActionAt : ℤ) : SenditAction :=
  .webhook .valid { code := "DH-1", newStatus := status, lastActionAt := some lastActionAt }

def connectedDb : SenditDb := { connections := fun _ => some "connection" }

def deliveredRun : List SenditAction :=
  [createParcel "PENDING" 1, pageWith "TRANSIT" 5, webhookWith "DELIVERED" 8]

theorem deliveredRun_row :
    ∃ row ∈ (Machine.run (SenditAction.step plainDirectory) connectedDb
        deliveredRun).findShipment "user" "DH-1",
      row.normalizedStatus = .delivered ∧ row.lastActionAt = some 8 := by decide +kernel

def lateRun : List SenditAction := [pageWith "TRANSIT" 6, webhookWith "DELIVERING" 9]

theorem shipment_chronology_lateRun :
    ∃ row, (Machine.run (SenditAction.step plainDirectory) connectedDb
        (deliveredRun ++ lateRun)).findShipment "user" "DH-1" = some row ∧
      row.normalizedStatus.isTerminal ∧ NotEarlier (some 8) row.lastActionAt := by
  have hchronology := @shipment_chronology plainDirectory connectedDb List.nodup_nil
    (deliveredRun ++ lateRun) (by decide +kernel)
  obtain ⟨row, hrow, hstatus, hlast⟩ := deliveredRun_row
  obtain ⟨row', hrow', hmoved⟩ := hchronology.1 deliveredRun lateRun rfl "user" "DH-1" row hrow
  rw [hstatus, hlast] at hmoved
  exact ⟨row', hrow', hmoved.terminal rfl, hmoved.lastAction⟩

/-- **A parcel that was delivered is pending again**, after another answer with its code. -/
theorem shipment_chronology_created_again :
    ¬ ∀ (directory : CustomerDirectory) (db : SenditDb) (earlier later : List SenditAction),
      db.Keyed → ∀ userId providerCode row,
        (Machine.run (SenditAction.step directory) db earlier).findShipment userId providerCode =
          some row → row.normalizedStatus.isTerminal →
        ∃ row', (Machine.run (SenditAction.step directory) db (earlier ++ later)).findShipment
            userId providerCode = some row' ∧ row'.normalizedStatus.isTerminal := by
  intro h
  obtain ⟨delivered, hdelivered, hstatus, _⟩ := deliveredRun_row
  obtain ⟨row, hrow, hterminal⟩ := h plainDirectory connectedDb deliveredRun
    [createParcel "PENDING" 2] List.nodup_nil "user" "DH-1" delivered hdelivered
    (by rw [hstatus]; rfl)
  have hpending : ∀ row ∈ (Machine.run (SenditAction.step plainDirectory) connectedDb
      (deliveredRun ++ [createParcel "PENDING" 2])).findShipment "user" "DH-1",
        row.normalizedStatus.isTerminal = false := by decide +kernel
  rw [hpending row hrow] at hterminal
  cases hterminal

end Zomaal.Sendit
