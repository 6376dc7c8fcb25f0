/-
**What the statuses of ForceLog and OzoneExpress are read as.**

A status that the table of a courier does not have is guessed from the words in it, by tests that
are made one after the other.  The test for a delivery comes before the one for a parcel that is on
its way, and it is the same as the beginning of it.

Main results:

* `statusReadings` — **which texts are read as expected**.
-/

import Zomaal.CourierStatuses

set_option autoImplicit false

namespace Zomaal

open QuickLivraison (UnicodeText)

/-! ### Readings of a code -/

def tableCodes : List String :=
  ["NEW", "NEW_PARCEL", "NOUVEAU_COLIS", "EN_ATTENTE", "PENDING", "CONFIRMED", "CONFIRME",
    "PROGRAMME", "PICKUP_PENDING", "RAMASSAGE_PROGRAMME", "RAMASSAGE", "PICKED_UP", "RAMASSE",
    "COLLECTE", "AT_WAREHOUSE", "WAREHOUSE", "ENTREPOT", "IN_TRANSIT", "TRANSIT", "DISTRIBUTION",
    "DISTRIBUE", "OUT_FOR_DELIVERY", "EN_COURS_DE_LIVRAISON", "POSTPONED", "REPORTE", "UNREACHABLE",
    "INJOIGNABLE", "DELIVERED", "LIVRE", "CANCELLED", "CANCELED", "ANNULE", "REFUSED", "REFUSE",
    "RETURN_PENDING", "RETOUR_EN_ATTENTE", "RETURN_IN_TRANSIT", "RETOUR_EN_COURS",
    "RETURNED_TO_WAREHOUSE", "RETOUR_ENTREPOT", "RETURN_INSPECTION", "RETOUR_CONTROLE",
    "RETURNED_TO_STOCK", "RETOUR_STOCK", "RETURNED_TO_SELLER", "RETOURNE_A_L_EXPEDITEUR",
    "RETOURNE_AU_CLIENT"]

def ozoneReading (code : String) : ShippingShipmentStatus :=
  statusOfCode OzoneExpress.statusMap OzoneExpress.guess (some code)

def forceLogReading (code : String) : ShippingShipmentStatus :=
  statusOfCode ForceLog.statusMap ForceLog.guess (some code)

def codeWords (code : String) : List String := (code.toList.splitOn '_').map String.ofList

/-- **A code that says that the parcel was delivered**, whatever counts as a negation. -/
def SaysDelivered (negations : List String) (code : String) : Prop :=
  code = "LIVRE" ∨ code = "DELIVERED" ∨
    ("LIVRE" ∈ codeWords code ∨ "DELIVERED" ∈ codeWords code) ∧
      (∀ word ∈ codeWords code, word ∉ negations) ∧
      includesPart code "RETOUR" = false ∧ includesPart code "RETURN" = false

instance (negations : List String) (code : String) : Decidable (SaysDelivered negations code) :=
  inferInstanceAs (Decidable (_ ∨ _))

structure CodeReadByMeaning (negations : List String) (code : String) : Prop where
  underway : includesPart code "COURS_DE_LIVRAISON" → includesPart code "RETOUR" = false →
    ozoneReading code = .outForDelivery ∧ forceLogReading code = .outForDelivery
  delivered : ozoneReading code = .delivered ∨ forceLogReading code = .delivered →
    SaysDelivered negations code
  agree : ozoneReading code ≠ .unknown → forceLogReading code ≠ .unknown →
    ozoneReading code = forceLogReading code

def inWarehouseOnly (code : String) : Bool :=
  includesPart code "WAREHOUSE" &&
    !(["EXPEDITEUR", "CLIENT", "STOCK", "CONTROLE", "INSPECTION", "ENTREPOT"].any
      (includesPart code))

/-- **The codes that are read as expected**: in the tables all but two; else the returns that both
find in one place, and codes that say so if they have the letters of a delivery. -/
def ClearCode (negations : List String) (code : String) : Prop :=
  if code ∈ tableCodes then code ≠ "RAMASSAGE" ∧ code ≠ "RAMASSAGE_PROGRAMME"
  else if includesPart code "RETOUR" then inWarehouseOnly code = false
  else includesPart code "LIVR" →
    includesPart code "COURS_DE_LIVRAISON" = false ∧ SaysDelivered negations code

instance (negations : List String) (code : String) : Decidable (ClearCode negations code) :=
  inferInstanceAs (Decidable (ite _ _ _))

theorem readings_of_table : ∀ code ∈ tableCodes,
    (includesPart code "COURS_DE_LIVRAISON" → includesPart code "RETOUR" = false →
      ozoneReading code = .outForDelivery ∧ forceLogReading code = .outForDelivery) ∧
    (ozoneReading code = .delivered ∨ forceLogReading code = .delivered →
      code = "LIVRE" ∨ code = "DELIVERED") ∧
    ((ozoneReading code ≠ .unknown → forceLogReading code ≠ .unknown →
        ozoneReading code = forceLogReading code) ↔
      code ≠ "RAMASSAGE" ∧ code ≠ "RAMASSAGE_PROGRAMME") := by
  decide +kernel

variable {code : String}

theorem readings_of_other (h : code ∉ tableCodes) :
    ozoneReading code = OzoneExpress.guess code ∧ forceLogReading code = ForceLog.guess code := by
  have hozone : OzoneExpress.statusMap code = none := by
    unfold OzoneExpress.statusMap
    split <;> first | rfl | exact absurd (by decide) h
  have hforceLog : ForceLog.statusMap code = none := by
    unfold ForceLog.statusMap
    split <;> first | rfl | exact absurd (by decide) h
  rw [ozoneReading, forceLogReading, statusOfCode, statusOfCode, hozone, hforceLog]
  by_cases hempty : code = ""
  · rw [hempty]
    decide +kernel
  · rw [if_neg hempty, if_neg hempty]
    exact ⟨rfl, rfl⟩

theorem includesPart_trans {part smaller : String} (h : includesPart code part = true)
    (hpart : includesPart part smaller = true) : includesPart code smaller = true :=
  decide_eq_true ((of_decide_eq_true hpart).trans (of_decide_eq_true h))

theorem guess_of_return (h : includesPart code "RETOUR" = true) :
    OzoneExpress.guess code ≠ .unknown ∧ ForceLog.guess code ≠ .unknown ∧
      OzoneExpress.guess code ≠ .delivered ∧ ForceLog.guess code ≠ .delivered ∧
      (OzoneExpress.guess code = ForceLog.guess code ↔ inWarehouseOnly code = false) := by
  unfold OzoneExpress.guess ForceLog.guess inWarehouseOnly
  simp only [h, if_true, List.any_cons, List.any_nil, Bool.or_false, ← Bool.or_assoc]
  -- the parts that are only read together are one case
  generalize (includesPart code "EXPEDITEUR" || includesPart code "CLIENT") = seller,
    includesPart code "STOCK" = stock, includesPart code "CONTROLE" = controle,
    includesPart code "INSPECTION" = inspection, includesPart code "ENTREPOT" = entrepot,
    includesPart code "WAREHOUSE" = warehouse,
    (includesPart code "COURS" || includesPart code "TRANSIT") = moving
  revert seller stock controle inspection entrepot warehouse moving
  decide +kernel

theorem guess_of_livr (h : includesPart code "RETOUR" = false)
    (hlivr : includesPart code "LIVR" = true) :
    OzoneExpress.guess code = .delivered ∧ ForceLog.guess code = .delivered := by
  rw [OzoneExpress.guess, ForceLog.guess, h, hlivr]
  exact ⟨rfl, rfl⟩

theorem guess_of_rest (h : includesPart code "RETOUR" = false)
    (hlivr : includesPart code "LIVR" = false) :
    OzoneExpress.guess code = ForceLog.guess code ∧ ForceLog.guess code ≠ .delivered := by
  have hcourse : includesPart code "COURS_DE_LIVRAISON" = false := by
    refine Bool.eq_false_iff.2 fun hpart => ?_
    rw [includesPart_trans hpart (by decide)] at hlivr
    cases hlivr
  rw [OzoneExpress.guess, ForceLog.guess, h, hlivr, hcourse, Bool.or_false]
  refine ⟨rfl, ?_⟩
  simp only [Bool.false_eq_true, if_false]
  repeat' split
  all_goals decide

variable {negations : List String}

theorem codeReadByMeaning_iff : CodeReadByMeaning negations code ↔ ClearCode negations code := by
  rw [ClearCode]
  by_cases htable : code ∈ tableCodes
  · obtain ⟨hunderway, hdelivered, hagree⟩ := readings_of_table code htable
    rw [if_pos htable]
    refine ⟨fun h => hagree.1 h.agree, fun h => ⟨hunderway, fun hread => ?_, hagree.2 h⟩⟩
    rcases hdelivered hread with hcode | hcode
    · exact .inl hcode
    · exact .inr (.inl hcode)
  · obtain ⟨hozone, hforceLog⟩ := readings_of_other htable
    rw [if_neg htable]
    cases hreturn : includesPart code "RETOUR" with
    | true =>
      obtain ⟨hknown, hknown', hnot, hnot', hagree⟩ := guess_of_return hreturn
      rw [if_pos rfl]
      constructor
      · intro h
        have hsame := h.agree (hozone ▸ hknown) (hforceLog ▸ hknown')
        rw [hozone, hforceLog] at hsame
        exact hagree.1 hsame
      · intro h
        refine ⟨fun _ hnone => ?_, fun hread => ?_, fun _ _ => ?_⟩
        · rw [hreturn] at hnone
          cases hnone
        · rw [hozone, hforceLog] at hread
          exact (hread.elim hnot hnot').elim
        · rw [hozone, hforceLog]
          exact hagree.2 h
    | false =>
      rw [if_neg Bool.false_ne_true]
      cases hlivr : includesPart code "LIVR" with
      | true =>
        obtain ⟨hguess, hguess'⟩ := guess_of_livr hreturn hlivr
        constructor
        · intro h _
          refine ⟨Bool.eq_false_iff.2 fun hpart => ?_, h.delivered (.inl (hozone.trans hguess))⟩
          have hread := (h.underway hpart hreturn).1
          rw [hozone, hguess] at hread
          cases hread
        · intro h
          obtain ⟨hnot, hsays⟩ := h rfl
          refine ⟨fun hpart => ?_, fun _ => hsays, fun _ _ => ?_⟩
          · rw [hnot] at hpart
            cases hpart
          · rw [hozone, hforceLog, hguess, hguess']
      | false =>
        obtain ⟨hsame, hnot⟩ := guess_of_rest hreturn hlivr
        refine ⟨fun _ hfalse => (nomatch hfalse), fun _ => ⟨fun hpart => ?_, fun hread => ?_,
          fun _ _ => ?_⟩⟩
        · rw [includesPart_trans hpart (by decide)] at hlivr
          cases hlivr
        · rw [hozone, hforceLog, hsame, or_self] at hread
          exact absurd hread hnot
        · rw [hozone, hforceLog, hsame]

/-! ### Readings of a text -/

/-- **What is expected of the reading of a text** by both couriers. -/
structure ReadByMeaning (unicode : UnicodeText) (negations : List String) (value : String) :
    Prop where
  underway : ∀ code ∈ courierStatusCode unicode value, includesPart code "COURS_DE_LIVRAISON" →
    includesPart code "RETOUR" = false →
      normalizeOzoneExpressStatus unicode value = .outForDelivery ∧
        normalizeForceLogStatus unicode value = .outForDelivery
  delivered : normalizeOzoneExpressStatus unicode value = .delivered ∨
      normalizeForceLogStatus unicode value = .delivered →
    ∃ code ∈ courierStatusCode unicode value, SaysDelivered negations code
  byCode : ∀ other, courierStatusCode unicode other = courierStatusCode unicode value →
    normalizeOzoneExpressStatus unicode other = normalizeOzoneExpressStatus unicode value ∧
      normalizeForceLogStatus unicode other = normalizeForceLogStatus unicode value
  agree : normalizeOzoneExpressStatus unicode value ≠ .unknown →
    normalizeForceLogStatus unicode value ≠ .unknown →
      normalizeOzoneExpressStatus unicode value = normalizeForceLogStatus unicode value

theorem readByMeaning_iff (unicode : UnicodeText) (negations : List String) (value : String) :
    ReadByMeaning unicode negations value ↔
      ∀ code ∈ courierStatusCode unicode value, ClearCode negations code := by
  have hbyCode : ∀ other, courierStatusCode unicode other = courierStatusCode unicode value →
      normalizeOzoneExpressStatus unicode other = normalizeOzoneExpressStatus unicode value ∧
        normalizeForceLogStatus unicode other = normalizeForceLogStatus unicode value := by
    intro other hother
    rw [normalizeOzoneExpressStatus, normalizeOzoneExpressStatusCode, hother,
      normalizeForceLogStatus, normalizeForceLogStatusCode, hother]
    exact ⟨rfl, rfl⟩
  cases hcode : courierStatusCode unicode value with
  | none =>
    have hozone : normalizeOzoneExpressStatus unicode value = .unknown := by
      rw [normalizeOzoneExpressStatus, normalizeOzoneExpressStatusCode, hcode]
      rfl
    have hforceLog : normalizeForceLogStatus unicode value = .unknown := by
      rw [normalizeForceLogStatus, normalizeForceLogStatusCode, hcode]
      rfl
    refine ⟨fun _ code hmem => (nomatch hmem), fun _ => ⟨fun code hmem => ?_, fun hread => ?_,
      hbyCode, fun hknown => absurd hozone hknown⟩⟩
    · rw [hcode] at hmem
      cases hmem
    · rw [hozone, hforceLog] at hread
      rcases hread with hread | hread <;> cases hread
  | some code =>
    have hozone : normalizeOzoneExpressStatus unicode value = ozoneReading code := by
      rw [normalizeOzoneExpressStatus, normalizeOzoneExpressStatusCode, hcode, ozoneReading]
    have hforceLog : normalizeForceLogStatus unicode value = forceLogReading code := by
      rw [normalizeForceLogStatus, normalizeForceLogStatusCode, hcode, forceLogReading]
    constructor
    · intro h other hother
      obtain rfl := Option.some.inj hother
      refine codeReadByMeaning_iff.1 ⟨?_, ?_, ?_⟩
      · rw [← hozone, ← hforceLog]
        exact h.underway code hcode
      · rw [← hozone, ← hforceLog]
        intro hread
        obtain ⟨other, hother, hsays⟩ := h.delivered hread
        obtain rfl := Option.some.inj (hcode.symm.trans hother)
        exact hsays
      · rw [← hozone, ← hforceLog]
        exact h.agree
    · intro h
      have hread := codeReadByMeaning_iff.2 (h code rfl)
      refine ⟨fun other hother => ?_, fun hdelivered => ⟨code, hcode, ?_⟩, hbyCode, ?_⟩
      · obtain rfl := Option.some.inj (hcode.symm.trans hother)
        rw [hozone, hforceLog]
        exact hread.underway
      · rw [hozone, hforceLog] at hdelivered
        exact hread.delivered hdelivered
      · rw [hozone, hforceLog]
        exact hread.agree

/-- **Status texts are classified by their meaning** exactly if their codes are clear. -/
theorem statusReadings (unicode : UnicodeText) (negations : List String) (value : String) :
    ReadByMeaning unicode negations value ↔
      ∀ code ∈ courierStatusCode unicode value, ClearCode negations code :=
  readByMeaning_iff unicode negations value

def unaccented : UnicodeText := QuickLivraison.plainTexts

/-- A parcel that is being delivered, and one that is still to be delivered, are read as delivered;
and a collection is read in two ways. -/
theorem statusReadings_underway :
    ¬ ReadByMeaning unaccented ["NON", "PAS"] "Colis en cours de livraison" ∧
      ¬ ReadByMeaning unaccented ["NON", "PAS"] "A livrer demain" ∧
      ¬ ReadByMeaning unaccented ["NON", "PAS"] "Ramassage" := by
  have hunclear : ∀ value code, courierStatusCode unaccented value = some code →
      ¬ ClearCode ["NON", "PAS"] code → ¬ ReadByMeaning unaccented ["NON", "PAS"] value :=
    fun value code hcode hnot h => hnot ((readByMeaning_iff _ _ value).1 h code hcode)
  exact ⟨hunclear _ "COLIS_EN_COURS_DE_LIVRAISON" (by decide +kernel) (by decide +kernel),
    hunclear _ "A_LIVRER_DEMAIN" (by decide +kernel) (by decide +kernel),
    hunclear _ "RAMASSAGE" (by decide +kernel) (by decide +kernel)⟩

end Zomaal
