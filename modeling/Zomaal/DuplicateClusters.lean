/-
**The groups of duplicate orders.**

The search goes through the orders of a customer from the oldest to the newest, and every order
joins the first open group that admits it.  An order that opens a group was refused by all earlier
ones; what joins a group later may match it all the same.

Main results:

* `clusterDuplicateOrders_greedy` — **the groups are those of a first-fit search, whatever the order
  in which the orders are given**.
-/

import Zomaal.DuplicateOrders
import Zomaal.OrderLinking

set_option autoImplicit false

namespace Zomaal

/-! ### The order of the search -/

theorem placedBefore_total (a b : OrderRow) : placedBefore a b ∨ placedBefore b a := by
  rcases lt_trichotomy a.providerCreatedAt b.providerCreatedAt with hlt | heq | hgt
  · exact Or.inl (Or.inl hlt)
  · rcases String.le_total a.id b.id with hle | hle
    · exact Or.inl (Or.inr ⟨heq, hle⟩)
    · exact Or.inr (Or.inr ⟨heq.symm, hle⟩)
  · exact Or.inr (Or.inl hgt)

theorem placedBefore_trans {a b c : OrderRow} (hab : placedBefore a b) (hbc : placedBefore b c) :
    placedBefore a c := by
  rcases hab with hab | ⟨hab, hid⟩
  · rcases hbc with hbc | ⟨hbc, -⟩
    · exact Or.inl (hab.trans hbc)
    · exact Or.inl (hbc ▸ hab)
  · rcases hbc with hbc | ⟨hbc, hid'⟩
    · exact Or.inl (hab.symm ▸ hbc)
    · exact Or.inr ⟨hab.trans hbc, String.le_trans hid hid'⟩

theorem placedBefore_antisymm {a b : OrderRow} (hab : placedBefore a b) (hba : placedBefore b a) :
    a.id = b.id := by
  rcases hab with hab | ⟨hab, hid⟩
  · rcases hba with hba | ⟨hba, -⟩
    · exact absurd (hab.trans hba) (lt_irrefl _)
    · exact absurd (hba ▸ hab) (lt_irrefl _)
  · rcases hba with hba | ⟨-, hid'⟩
    · exact absurd (hab ▸ hba) (lt_irrefl _)
    · exact String.le_antisymm hid hid'

/-- An order was placed before another one; of orders placed at once, the identifier decides. -/
def Earlier (a b : OrderRow) : Prop := placedBefore a b ∧ a.id ≠ b.id

theorem Earlier.not_later {a b : OrderRow} (h : Earlier a b) : ¬Earlier b a :=
  fun hba => h.2 (placedBefore_antisymm h.1 hba.1)

theorem sorted_earlier {orders : List OrderRow} (hids : (orders.map OrderRow.id).Nodup) :
    (orders.insertionSort placedBefore).Pairwise Earlier := by
  have : Std.Total placedBefore := ⟨placedBefore_total⟩
  have : IsTrans OrderRow placedBefore := ⟨fun _ _ _ => placedBefore_trans⟩
  have hsorted := List.pairwise_insertionSort placedBefore orders
  have hperm : ((orders.insertionSort placedBefore).map OrderRow.id).Perm
      (orders.map OrderRow.id) := (List.perm_insertionSort placedBefore orders).map _
  have hne : (orders.insertionSort placedBefore).Pairwise fun a b => a.id ≠ b.id :=
    List.pairwise_map.1 (hperm.nodup_iff.2 hids)
  exact hsorted.and hne

theorem insertionSort_perm_eq {orders orders' : List OrderRow} (h : orders.Perm orders')
    (hids : (orders.map OrderRow.id).Nodup) :
    orders.insertionSort placedBefore = orders'.insertionSort placedBefore := by
  have hids' : (orders'.map OrderRow.id).Nodup := (h.map _).nodup_iff.1 hids
  have hperm : (orders.insertionSort placedBefore).Perm (orders'.insertionSort placedBefore) :=
    ((List.perm_insertionSort _ orders).trans h).trans (List.perm_insertionSort _ orders').symm
  exact hperm.eq_of_pairwise (fun _ _ _ _ hab hba => absurd hba hab.not_later)
    (sorted_earlier hids) (sorted_earlier hids')

/-! ### One customer -/

namespace DuplicateCluster

section Search

variable {windowMs : ℤ} {ordersMatch : OrderRow → OrderRow → Bool}

variable (windowMs ordersMatch) in
/-- **How a group came to be**: its main order is the oldest, and every other one was placed within
the window and matches an earlier one of the group. -/
structure Grown (cluster : DuplicateCluster) : Prop where
  oldest : ∀ order ∈ cluster.duplicates, Earlier cluster.main order
  within : ∀ order ∈ cluster.duplicates,
    order.providerCreatedAt - cluster.main.providerCreatedAt ≤ windowMs
  matched : ∀ order ∈ cluster.duplicates,
    ∃ member ∈ cluster.members, Earlier member order ∧ ordersMatch order member = true

variable (windowMs ordersMatch) in
def Refuses (cluster : DuplicateCluster) (order : OrderRow) : Prop :=
  order.providerCreatedAt - cluster.main.providerCreatedAt ≤ windowMs →
    ∀ member ∈ cluster.members, Earlier member order → ordersMatch order member = false

theorem place_cases (order : OrderRow) (opened : List DuplicateCluster) :
    (∃ before cluster after, opened = before ++ cluster :: after ∧
      cluster.admits windowMs ordersMatch order = true ∧
      place windowMs ordersMatch order opened =
        before ++ { cluster with duplicates := cluster.duplicates ++ [order] } :: after) ∨
    (∀ cluster ∈ opened, cluster.admits windowMs ordersMatch order = false) ∧
      place windowMs ordersMatch order opened = opened ++ [{ main := order }] := by
  induction opened with
  | nil => exact Or.inr ⟨fun _ h => absurd h List.not_mem_nil, rfl⟩
  | cons first opened ih =>
    rw [place]
    cases hadmits : first.admits windowMs ordersMatch order with
    | true => exact Or.inl ⟨[], first, opened, rfl, hadmits, if_pos rfl⟩
    | false =>
      rw [if_neg Bool.false_ne_true]
      rcases ih with ⟨before, cluster, after, rfl, hone, hplace⟩ | ⟨hnone, hplace⟩
      · exact Or.inl ⟨first :: before, cluster, after, rfl, hone, by rw [hplace]; rfl⟩
      · refine Or.inr ⟨fun cluster hcluster => ?_, by rw [hplace]; rfl⟩
        rcases List.mem_cons.1 hcluster with rfl | hcluster
        · exact hadmits
        · exact hnone cluster hcluster

variable (windowMs ordersMatch) in
/-- **The open groups after some orders**: they hold these orders, each once, and every main order
was refused by the groups open before it. -/
structure Opened (orders : List OrderRow) (opened : List DuplicateCluster) : Prop where
  members : (opened.flatMap DuplicateCluster.members).Perm orders
  grown : ∀ cluster ∈ opened, cluster.Grown windowMs ordersMatch
  refused : ∀ cluster ∈ opened, ∀ other ∈ opened, other.Refuses windowMs ordersMatch cluster.main

theorem Grown.append {cluster : DuplicateCluster} (h : cluster.Grown windowMs ordersMatch)
    {order : OrderRow} (hlater : ∀ member ∈ cluster.members, Earlier member order)
    (hadmits : cluster.admits windowMs ordersMatch order = true) :
    Grown windowMs ordersMatch { cluster with duplicates := cluster.duplicates ++ [order] } := by
  rw [admits, Bool.and_eq_true, List.any_eq_true] at hadmits
  obtain ⟨hwithin, member, hmember, hmatch⟩ := hadmits
  refine ⟨fun other hother => ?_, fun other hother => ?_, fun other hother => ?_⟩
  · rcases Ledger.mem_concat.1 hother with hold | rfl
    · exact h.oldest other hold
    · exact hlater cluster.main (List.mem_cons_self ..)
  · rcases Ledger.mem_concat.1 hother with hold | rfl
    · exact h.within other hold
    · exact of_decide_eq_true hwithin
  · rcases Ledger.mem_concat.1 hother with hold | rfl
    · obtain ⟨earlier, hearlier, hspec⟩ := h.matched other hold
      refine ⟨earlier, ?_, hspec⟩
      rcases List.mem_cons.1 hearlier with rfl | hearlier
      · exact List.mem_cons_self ..
      · exact List.mem_cons_of_mem _ (List.mem_append_left _ hearlier)
    · refine ⟨member, ?_, hlater member hmember, hmatch⟩
      rcases List.mem_cons.1 hmember with rfl | hmember
      · exact List.mem_cons_self ..
      · exact List.mem_cons_of_mem _ (List.mem_append_left _ hmember)

theorem Refuses.append {cluster : DuplicateCluster} {order main : OrderRow}
    (h : cluster.Refuses windowMs ordersMatch main) (hlater : Earlier main order) :
    Refuses windowMs ordersMatch { cluster with duplicates := cluster.duplicates ++ [order] }
      main := by
  intro hwithin member hmember hearlier
  rcases List.mem_cons.1 hmember with rfl | hmember
  · exact h hwithin _ (List.mem_cons_self ..) hearlier
  · rcases Ledger.mem_concat.1 hmember with hold | rfl
    · exact h hwithin member (List.mem_cons_of_mem _ hold) hearlier
    · exact absurd hlater hearlier.not_later

theorem Opened.place {orders : List OrderRow} {opened : List DuplicateCluster}
    (h : Opened windowMs ordersMatch orders opened) {order : OrderRow}
    (hlater : ∀ earlier ∈ orders, Earlier earlier order) :
    Opened windowMs ordersMatch (orders ++ [order])
      (DuplicateCluster.place windowMs ordersMatch order opened) := by
  have hmember : ∀ cluster ∈ opened, ∀ member ∈ cluster.members, Earlier member order :=
    fun cluster hcluster member hmember =>
      hlater member (h.members.mem_iff.1 (List.mem_flatMap.2 ⟨cluster, hcluster, hmember⟩))
  have hmain : ∀ cluster ∈ opened, Earlier cluster.main order := fun cluster hcluster =>
    hmember cluster hcluster cluster.main (List.mem_cons_self ..)
  rcases @place_cases windowMs ordersMatch order opened with
    ⟨before, cluster, after, rfl, hadmits, hplace⟩ | ⟨hnone, hplace⟩
  · have hin : cluster ∈ before ++ cluster :: after := by simp
    have hcases : ∀ other ∈ before ++
        { cluster with duplicates := cluster.duplicates ++ [order] } :: after,
        other ∈ before ++ cluster :: after ∨
          other = { cluster with duplicates := cluster.duplicates ++ [order] } := by
      intro other hother
      rcases List.mem_append.1 hother with hother | hother
      · exact Or.inl (List.mem_append_left _ hother)
      · rcases List.mem_cons.1 hother with rfl | hother
        · exact Or.inr rfl
        · exact Or.inl (List.mem_append_right _ (List.mem_cons_of_mem _ hother))
    rw [hplace]
    refine ⟨?_, fun other hother => ?_, fun other hother third hthird => ?_⟩
    · have hperm : ((before ++ { cluster with duplicates := cluster.duplicates ++ [order] } ::
          after).flatMap DuplicateCluster.members).Perm
          ((before ++ cluster :: after).flatMap DuplicateCluster.members ++ [order]) := by
        simp only [List.flatMap_append, List.flatMap_cons, DuplicateCluster.members,
          List.append_assoc, List.cons_append]
        refine List.Perm.append_left _ (List.Perm.cons _ (List.Perm.append_left _ ?_))
        rw [List.nil_append]
        exact (List.perm_append_singleton order _).symm
      exact hperm.trans (h.members.append_right _)
    · rcases hcases other hother with hold | rfl
      · exact h.grown other hold
      · exact (h.grown cluster hin).append (hmember cluster hin) hadmits
    · -- the main orders are those there were before
      have hold : ∃ old ∈ before ++ cluster :: after, old.main = other.main := by
        rcases hcases other hother with hold | rfl
        · exact ⟨other, hold, rfl⟩
        · exact ⟨cluster, hin, rfl⟩
      obtain ⟨old, hold, hsame⟩ := hold
      rw [← hsame]
      rcases hcases third hthird with hthird | rfl
      · exact h.refused old hold third hthird
      · exact (h.refused old hold cluster hin).append (hmain old hold)
  · rw [hplace]
    refine ⟨?_, fun other hother => ?_, fun other hother third hthird => ?_⟩
    · rw [List.flatMap_append]
      exact h.members.append_right _
    · rcases Ledger.mem_concat.1 hother with hold | rfl
      · exact h.grown other hold
      · exact ⟨fun _ hnil => absurd hnil List.not_mem_nil,
          fun _ hnil => absurd hnil List.not_mem_nil, fun _ hnil => absurd hnil List.not_mem_nil⟩
    · rcases Ledger.mem_concat.1 hother with hold | rfl
      · rcases Ledger.mem_concat.1 hthird with hthird | rfl
        · exact h.refused other hold third hthird
        · intro _ member hmember hearlier
          obtain rfl := List.mem_singleton.1 hmember
          exact absurd (hmain other hold) hearlier.not_later
      · intro hwithin member hmember' hearlier
        rcases Ledger.mem_concat.1 hthird with hthird | rfl
        · have hnot := hnone third hthird
          rw [admits, decide_eq_true hwithin, Bool.true_and] at hnot
          have hall := List.any_eq_false.1 hnot member hmember'
          exact Bool.not_eq_true _ ▸ hall
        · obtain rfl := List.mem_singleton.1 hmember'
          exact absurd rfl hearlier.2

theorem Opened.foldl {orders rest : List OrderRow} {opened : List DuplicateCluster}
    (h : Opened windowMs ordersMatch orders opened)
    (hsorted : (orders ++ rest).Pairwise Earlier) :
    Opened windowMs ordersMatch (orders ++ rest) (rest.foldl
      (fun opened order => DuplicateCluster.place windowMs ordersMatch order opened) opened) := by
  induction rest generalizing orders opened with
  | nil =>
    rw [List.append_nil]
    exact h
  | cons order rest ih =>
    have hlater : ∀ earlier ∈ orders, Earlier earlier order := fun earlier hearlier =>
      (List.pairwise_append.1 hsorted).2.2 earlier hearlier order (List.mem_cons_self ..)
    have hassoc : orders ++ order :: rest = (orders ++ [order]) ++ rest := by simp
    rw [hassoc] at hsorted ⊢
    exact ih (h.place hlater) hsorted

theorem Opened.nil : Opened windowMs ordersMatch [] [] :=
  ⟨List.Perm.nil, fun _ h => absurd h List.not_mem_nil, fun _ h => absurd h List.not_mem_nil⟩

end Search

end DuplicateCluster

/-! ### All customers -/

section Customers

variable {windowMs : ℤ} {ordersMatch : OrderRow → OrderRow → Bool}

variable (windowMs ordersMatch) in
/-- **The groups are those of a first-fit search.** -/
structure GreedyClusters (orders : List OrderRow) (clusters : List DuplicateCluster) : Prop where
  stored : ∀ cluster ∈ clusters, ∀ order ∈ cluster.members, order ∈ orders
  /-- No order is in two groups, or twice in one. -/
  apart : ((clusters.flatMap DuplicateCluster.members).map OrderRow.id).Nodup
  customer : ∀ cluster ∈ clusters, ∃ customerId : String,
    ∀ order ∈ cluster.members, order.customerId = some customerId
  duplicated : ∀ cluster ∈ clusters, cluster.duplicates ≠ []
  grown : ∀ cluster ∈ clusters, cluster.Grown windowMs ordersMatch
  /-- An order that is in no group, or the main order of one, was refused by all groups of its
  customer. -/
  refused : ∀ order ∈ orders, ((∀ cluster ∈ clusters, order ∉ cluster.members) ∨
      ∃ cluster ∈ clusters, cluster.main = order) →
    ∀ cluster ∈ clusters, cluster.main.customerId = order.customerId →
      cluster.Refuses windowMs ordersMatch order

theorem opened_customer {orders : List OrderRow} (hids : (orders.map OrderRow.id).Nodup) :
    DuplicateCluster.Opened windowMs ordersMatch (orders.insertionSort placedBefore)
      ((orders.insertionSort placedBefore).foldl
        (fun opened order => DuplicateCluster.place windowMs ordersMatch order opened) []) := by
  exact (@DuplicateCluster.Opened.nil windowMs ordersMatch).foldl (sorted_earlier hids)

theorem members_customer {orders : List OrderRow} (hids : (orders.map OrderRow.id).Nodup) :
    ((clusterCustomerOrders windowMs ordersMatch orders).flatMap
      DuplicateCluster.members).Subperm orders := by
  have hsub : ((clusterCustomerOrders windowMs ordersMatch orders).flatMap
      DuplicateCluster.members).Sublist (((orders.insertionSort placedBefore).foldl
        (fun opened order => DuplicateCluster.place windowMs ordersMatch order opened)
        []).flatMap DuplicateCluster.members) := List.filter_sublist.flatMap _
  exact hsub.subperm.trans (((opened_customer hids).members.trans
    (List.perm_insertionSort placedBefore orders)).subperm)

theorem mem_clusters {orders : List OrderRow} {cluster : DuplicateCluster} :
    cluster ∈ clusterDuplicateOrders windowMs ordersMatch orders ↔
      ∃ customerId : String, cluster ∈ clusterCustomerOrders windowMs ordersMatch
        (orders.filter fun order => order.customerId = some customerId) := by
  rw [clusterDuplicateOrders, List.mem_flatMap]
  constructor
  · rintro ⟨customerId, -, hcluster⟩
    exact ⟨customerId, hcluster⟩
  · rintro ⟨customerId, hcluster⟩
    refine ⟨customerId, List.mem_eraseDups.2 ?_, hcluster⟩
    cases horders : orders.filter (fun order => order.customerId = some customerId) with
    | nil =>
      rw [horders] at hcluster
      cases hcluster
    | cons order rest =>
      have hin : order ∈ orders.filter fun order => order.customerId = some customerId := by
        rw [horders]
        exact List.mem_cons_self ..
      obtain ⟨hin, hcustomer⟩ := List.mem_filter.1 hin
      exact List.mem_filterMap.2 ⟨order, hin, of_decide_eq_true hcustomer⟩

theorem nodup_customer {orders : List OrderRow} (hids : (orders.map OrderRow.id).Nodup)
    (p : OrderRow → Bool) : ((orders.filter p).map OrderRow.id).Nodup :=
  hids.sublist (List.filter_sublist.map _)

theorem nodup_eraseDups {α : Type} [DecidableEq α] (l : List α) : l.eraseDups.Nodup := by
  induction hlength : l.length using Nat.strong_induction_on generalizing l with
  | _ n ih =>
    cases l with
    | nil => exact List.nodup_nil
    | cons a l =>
      rw [List.eraseDups_cons, List.nodup_cons, List.mem_eraseDups]
      refine ⟨fun h => ?_, ih _ ?_ _ rfl⟩
      · have hne := (List.mem_filter.1 h).2
        simp at hne
      · have hle := List.length_filter_le (fun b => !b == a) l
        rw [List.length_cons] at hlength
        omega

theorem clusterCustomerOrders_greedy {orders : List OrderRow}
    (hids : (orders.map OrderRow.id).Nodup) {cluster : DuplicateCluster}
    (hcluster : cluster ∈ clusterCustomerOrders windowMs ordersMatch orders) :
    cluster.duplicates ≠ [] ∧ cluster.Grown windowMs ordersMatch ∧
      ∀ order ∈ orders, ((∀ other ∈ clusterCustomerOrders windowMs ordersMatch orders,
          order ∉ other.members) ∨
        ∃ other ∈ clusterCustomerOrders windowMs ordersMatch orders, other.main = order) →
        cluster.Refuses windowMs ordersMatch order := by
  have hopened := @opened_customer windowMs ordersMatch orders hids
  obtain ⟨hopen, hfull⟩ := List.mem_filter.1 hcluster
  refine ⟨fun hempty => ?_, hopened.grown cluster hopen, fun order horder hfree => ?_⟩
  · rw [hempty] at hfull
    cases hfull
  · rcases hfree with hfree | ⟨other, hother, rfl⟩
    · -- the order is alone in its open group
      have hin := hopened.members.mem_iff.2 ((List.mem_insertionSort placedBefore).2 horder)
      obtain ⟨own, hown, hmember⟩ := List.mem_flatMap.1 hin
      have hnone : own.duplicates.isEmpty = true := by
        cases hduplicates : own.duplicates.isEmpty with
        | true => rfl
        | false =>
          refine absurd hmember (hfree own (List.mem_filter.2 ⟨hown, ?_⟩))
          rw [hduplicates]
          rfl
      have hmain : order = own.main := by
        rw [DuplicateCluster.members, List.isEmpty_iff.1 hnone] at hmember
        exact List.mem_singleton.1 hmember
      rw [hmain]
      exact hopened.refused own hown cluster hopen
    · exact hopened.refused other (List.mem_filter.1 hother).1 cluster hopen

end Customers

section Main

variable (windowMs : ℤ) (ordersMatch : OrderRow → OrderRow → Bool)

/-- **The groups are those of a first-fit search, whatever the order in which the orders are
given.** -/
theorem clusterDuplicateOrders_greedy (orders : List OrderRow)
    (hids : (orders.map OrderRow.id).Nodup) :
    GreedyClusters windowMs ordersMatch orders
        (clusterDuplicateOrders windowMs ordersMatch orders) ∧
      ∀ orders' : List OrderRow, orders'.Perm orders →
        (clusterDuplicateOrders windowMs ordersMatch orders').Perm
          (clusterDuplicateOrders windowMs ordersMatch orders) := by
  have hmembers : ∀ customerId : String, ∀ cluster ∈ clusterCustomerOrders windowMs ordersMatch
      (orders.filter fun order => order.customerId = some customerId),
      ∀ order ∈ cluster.members, order ∈ orders ∧ order.customerId = some customerId := by
    intro customerId cluster hcluster order horder
    have hin := (members_customer (nodup_customer hids _)).subset
      (List.mem_flatMap.2 ⟨cluster, hcluster, horder⟩)
    obtain ⟨hin, hcustomer⟩ := List.mem_filter.1 hin
    exact ⟨hin, of_decide_eq_true hcustomer⟩
  have hcustomer : ∀ cluster ∈ clusterDuplicateOrders windowMs ordersMatch orders,
      ∀ customerId, cluster.main.customerId = some customerId →
        cluster ∈ clusterCustomerOrders windowMs ordersMatch
          (orders.filter fun order => order.customerId = some customerId) := by
    intro cluster hcluster customerId hmain
    obtain ⟨own, hown⟩ := mem_clusters.1 hcluster
    have hsame := (hmembers own cluster hown cluster.main (List.mem_cons_self ..)).2
    obtain rfl := Option.some.inj (hsame.symm.trans hmain)
    exact hown
  refine ⟨⟨fun cluster hcluster order horder => mem_clusterDuplicateOrders hcluster horder, ?_,
    fun cluster hcluster => ?_, fun cluster hcluster => ?_, fun cluster hcluster => ?_,
    fun order horder hfree cluster hcluster hsame => ?_⟩, fun orders' hperm => ?_⟩
  · have hnodup : ((clusterDuplicateOrders windowMs ordersMatch orders).flatMap
        DuplicateCluster.members).Nodup := by
      rw [clusterDuplicateOrders, List.flatMap_assoc, List.nodup_flatMap]
      refine ⟨fun customerId _ => ?_, ?_⟩
      · have hsub := @members_customer windowMs ordersMatch
          (orders.filter fun order => order.customerId = some customerId)
          (nodup_customer hids _)
        obtain ⟨l, hl, hsub⟩ := hsub
        exact hl.nodup_iff.1 ((List.Nodup.of_map _ (nodup_customer hids _)).sublist hsub)
      · refine (nodup_eraseDups _).imp_of_mem fun {a b} _ _ hne order ha hb => hne ?_
        obtain ⟨cluster, hcluster, hin⟩ := List.mem_flatMap.1 ha
        obtain ⟨other, hother, hin'⟩ := List.mem_flatMap.1 hb
        exact Option.some.inj ((hmembers a cluster hcluster order hin).2.symm.trans
          (hmembers b other hother order hin').2)
    refine hnodup.map_on fun a ha b hb hid => ?_
    obtain ⟨cluster, hcluster, hin⟩ := List.mem_flatMap.1 ha
    obtain ⟨other, hother, hin'⟩ := List.mem_flatMap.1 hb
    exact List.inj_on_of_nodup_map hids (mem_clusterDuplicateOrders hcluster hin)
      (mem_clusterDuplicateOrders hother hin') hid
  · obtain ⟨customerId, hown⟩ := mem_clusters.1 hcluster
    exact ⟨customerId, fun order horder => (hmembers customerId cluster hown order horder).2⟩
  · obtain ⟨customerId, hown⟩ := mem_clusters.1 hcluster
    exact (clusterCustomerOrders_greedy (nodup_customer hids _) hown).1
  · obtain ⟨customerId, hown⟩ := mem_clusters.1 hcluster
    exact (clusterCustomerOrders_greedy (nodup_customer hids _) hown).2.1
  · obtain ⟨customerId, hown⟩ := mem_clusters.1 hcluster
    have hmain := (hmembers customerId cluster hown cluster.main (List.mem_cons_self ..)).2
    have hmine : order.customerId = some customerId := hsame.symm.trans hmain
    refine (clusterCustomerOrders_greedy (nodup_customer hids _) hown).2.2 order
      (List.mem_filter.2 ⟨horder, decide_eq_true hmine⟩) ?_
    rcases hfree with hfree | ⟨other, hother, rfl⟩
    · exact Or.inl fun other hother => hfree other (mem_clusters.2 ⟨customerId, hother⟩)
    · exact Or.inr ⟨other, hcustomer other hother customerId hmine, rfl⟩
  · have hsame : ∀ customerId : String,
        clusterCustomerOrders windowMs ordersMatch
          (orders'.filter fun order => order.customerId = some customerId) =
        clusterCustomerOrders windowMs ordersMatch
          (orders.filter fun order => order.customerId = some customerId) := by
      intro customerId
      rw [clusterCustomerOrders, clusterCustomerOrders, insertionSort_perm_eq
        (hperm.filter _) (nodup_customer ((hperm.map _).nodup_iff.2 hids) _)]
    have hcustomers : (orders'.filterMap OrderRow.customerId).eraseDups.Perm
        (orders.filterMap OrderRow.customerId).eraseDups := by
      rw [List.perm_ext_iff_of_nodup (nodup_eraseDups _) (nodup_eraseDups _)]
      intro customerId
      rw [List.mem_eraseDups, List.mem_eraseDups, (hperm.filterMap _).mem_iff]
    rw [clusterDuplicateOrders, clusterDuplicateOrders]
    simp only [hsame]
    exact hcustomers.flatMap_right _

end Main

/-! ### The match relation -/

section Symmetry

variable (toLowerCase : String → String) (a b : DuplicateLineInput)

theorem sameExternalProduct_comm (same : Bool) :
    sameExternalProduct a b same = sameExternalProduct b a same := by
  rw [sameExternalProduct, sameExternalProduct]
  cases JsText.truthy a.externalProductId <;> cases JsText.truthy b.externalProductId <;>
    simp only [eq_comm]

theorem sameExternalVariant_comm (same : Bool) :
    sameExternalVariant a b same = sameExternalVariant b a same := by
  rw [sameExternalVariant, sameExternalVariant]
  cases JsText.truthy a.externalVariantId <;> cases JsText.truthy b.externalVariantId <;>
    simp only [eq_comm]

theorem weakLinesMatch_comm (same : Bool) :
    weakLinesMatch toLowerCase a b same = weakLinesMatch toLowerCase b a same := by
  have hnames : (normalizedName toLowerCase a ≠ "" &&
      normalizedName toLowerCase a = normalizedName toLowerCase b : Bool) =
      (normalizedName toLowerCase b ≠ "" &&
        normalizedName toLowerCase b = normalizedName toLowerCase a : Bool) := by
    by_cases hsame : normalizedName toLowerCase a = normalizedName toLowerCase b
    · rw [hsame]
    · have hother : ¬normalizedName toLowerCase b = normalizedName toLowerCase a :=
        fun h => hsame h.symm
      simp only [decide_eq_false hsame, decide_eq_false hother, Bool.and_false]
  rw [weakLinesMatch, weakLinesMatch, sameExternalProduct_comm a b]
  cases normalizedSku toLowerCase a with
  | none =>
    cases normalizedSku toLowerCase b <;> cases sameExternalProduct b a same <;>
      first | rfl | exact hnames
  | some left =>
    cases normalizedSku toLowerCase b with
    | none => cases sameExternalProduct b a same <;> first | rfl | exact hnames
    | some right => simp only [eq_comm]

theorem duplicateLinesMatch_comm (aConnection bConnection : String) :
    duplicateLinesMatch toLowerCase a aConnection b bConnection =
      duplicateLinesMatch toLowerCase b bConnection a aConnection := by
  have hconnection : decide (aConnection = bConnection) = decide (bConnection = aConnection) := by
    simp only [eq_comm]
  rw [duplicateLinesMatch, duplicateLinesMatch, hconnection, sameExternalVariant_comm a b,
    sameExternalProduct_comm a b, weakLinesMatch_comm]
  cases JsText.truthy a.warehouseVariantId with
  | none => cases JsText.truthy b.warehouseVariantId <;> rfl
  | some left =>
    cases JsText.truthy b.warehouseVariantId with
    | none => rfl
    | some right => simp only [eq_comm]

theorem ordersMatch_comm (a b : OrderRow) :
    ordersMatch toLowerCase a b = ordersMatch toLowerCase b a := by
  rw [Bool.eq_iff_iff, ordersMatch, ordersMatch]
  simp only [List.any_eq_true]
  constructor
  · rintro ⟨left, hleft, right, hright, hmatch⟩
    exact ⟨right, hright, left, hleft, duplicateLinesMatch_comm toLowerCase left right _ _ ▸ hmatch⟩
  · rintro ⟨right, hright, left, hleft, hmatch⟩
    exact ⟨left, hleft, right, hright, duplicateLinesMatch_comm toLowerCase right left _ _ ▸ hmatch⟩

end Symmetry

/-! ### An order that matches what joins a group later -/

def hatLine : DuplicateLineInput := { name := "Hat" }

def scarfItem : DuplicateLineInput := { name := "Scarf" }

def hatThenScarf : List OrderRow :=
  [{ id := "a", storeId := "store", connectionId := "shop", platform := .shopify,
     customerId := some "customer", providerCreatedAt := 0, lines := [hatLine] },
   { id := "b", storeId := "store", connectionId := "shop", platform := .shopify,
     customerId := some "customer", providerCreatedAt := 1, lines := [scarfItem] },
   { id := "c", storeId := "store", connectionId := "shop", platform := .shopify,
     customerId := some "customer", providerCreatedAt := 2, lines := [hatLine, scarfItem] }]

/-- The hat and the last order are a group, in whatever order the three are given. -/
theorem clusterDuplicateOrders_hats :
    (hatThenScarf.map OrderRow.id).Nodup ∧
      GreedyClusters duplicateWindowMs (ordersMatch lowerAscii) hatThenScarf
        (clusterDuplicateOrders duplicateWindowMs (ordersMatch lowerAscii) hatThenScarf) ∧
      ∀ orders' : List OrderRow, orders'.Perm hatThenScarf →
        (clusterDuplicateOrders duplicateWindowMs (ordersMatch lowerAscii) orders').Perm
          (clusterDuplicateOrders duplicateWindowMs (ordersMatch lowerAscii) hatThenScarf) :=
  ⟨by decide, clusterDuplicateOrders_greedy duplicateWindowMs (ordersMatch lowerAscii)
    hatThenScarf (by decide)⟩

/-- **The scarf is in no group, and matches the last order**, which joined the hat's group. -/
theorem clusterDuplicateOrders_outsider :
    ¬∀ (windowMs : ℤ) (matching : OrderRow → OrderRow → Bool) (orders : List OrderRow),
      (∀ a b, matching a b = matching b a) → (orders.map OrderRow.id).Nodup →
      ∀ order ∈ orders,
        ((∀ cluster ∈ clusterDuplicateOrders windowMs matching orders,
            order ∉ cluster.members) ∨
          ∃ cluster ∈ clusterDuplicateOrders windowMs matching orders, cluster.main = order) →
        ∀ cluster ∈ clusterDuplicateOrders windowMs matching orders,
          cluster.main.customerId = order.customerId → Earlier cluster.main order →
          order.providerCreatedAt - cluster.main.providerCreatedAt ≤ windowMs →
          ∀ member ∈ cluster.members, matching order member = false := by
  intro h
  have hclusters : clusterDuplicateOrders duplicateWindowMs (ordersMatch lowerAscii)
      hatThenScarf =
      [{ main :=
           { id := "a", storeId := "store", connectionId := "shop", platform := .shopify,
             customerId := some "customer", providerCreatedAt := 0, lines := [hatLine] }
         duplicates :=
           [{ id := "c", storeId := "store", connectionId := "shop", platform := .shopify,
              customerId := some "customer", providerCreatedAt := 2,
              lines := [hatLine, scarfItem] }] }] := by
    decide +kernel
  have hrefused := h duplicateWindowMs (ordersMatch lowerAscii) hatThenScarf
    (ordersMatch_comm lowerAscii) (by decide)
    { id := "b", storeId := "store", connectionId := "shop", platform := .shopify,
      customerId := some "customer", providerCreatedAt := 1, lines := [scarfItem] } (by decide)
  rw [hclusters] at hrefused
  have hmatch := hrefused (Or.inl (by decide)) _ (List.mem_singleton_self _) rfl
    ⟨by decide, by decide⟩ (by decide) _ (List.mem_cons_of_mem _ (List.mem_singleton_self _))
  exact absurd hmatch (by decide +kernel)

end Zomaal
