import DeviceTwin.Proofs.NodeId.RoundTrip
import DeviceTwin.Proofs.Text.Utf8Order
import Mathlib.Data.List.Pairwise

/-!
# The order of identifiers

Identifiers are ordered by namespace, then by kind, then by value (`order_eq_lt_iff`), and no two of
them are in one place.  So a list that is sorted and in which equal neighbours are dropped is
determined by what it holds, and not by how that was listed before (`sortUnique_congr`).
-/

namespace DeviceTwin

/-! ## Inside a namespace -/

namespace Identifier

/-- One identifier comes before another one of the same namespace. -/
inductive Precedes : Identifier → Identifier → Prop where
  | numbers {m n : UInt32} (h : m < n) : Precedes (.numeric m) (.numeric n)
  | kinds (n : UInt32) (t : Text) : Precedes (.numeric n) (.text t)
  | texts {s t : Text} (h : Utf8.encode s < Utf8.encode t) : Precedes (.text s) (.text t)

variable {i j k : Identifier}

theorem Precedes.trans (h : i.Precedes j) (h' : j.Precedes k) : i.Precedes k := by
  cases h with
  | numbers h =>
    cases h' with
    | numbers h' => exact .numbers (UInt32.lt_trans h h')
    | kinds => exact .kinds _ _
  | kinds =>
    cases h' with
    | texts => exact .kinds _ _
  | texts h =>
    cases h' with
    | texts h' => exact .texts (List.lt_trans h h')

theorem order_swap (i j : Identifier) : (i.order j).swap = j.order i := by
  cases i <;> cases j
  · exact Nat.compare_swap _ _
  · rfl
  · rfl
  · exact Utf8.compareLex_swap

theorem order_eq_eq_iff : i.order j = .eq ↔ i = j := by
  cases i with
  | numeric m =>
    cases j with
    | numeric n => rw [order, Nat.compare_eq_eq, UInt32.toNat_inj, numeric.injEq]
    | text t => simp [order]
  | text s =>
    cases j with
    | numeric n => simp [order]
    | text t => rw [order, Utf8.compareLex_eq_eq_iff, Utf8.encode_inj, text.injEq]

theorem order_eq_lt_iff : i.order j = .lt ↔ i.Precedes j := by
  constructor
  · intro h
    cases i with
    | numeric m =>
      cases j with
      | numeric n => exact .numbers (UInt32.lt_iff_toNat_lt.2 (Nat.compare_eq_lt.1 h))
      | text t => exact .kinds m t
    | text s =>
      cases j with
      | numeric n => exact absurd h nofun
      | text t => exact .texts (Utf8.compareLex_eq_lt_iff.1 h)
  · rintro (h | _ | h)
    · exact Nat.compare_eq_lt.2 (UInt32.lt_iff_toNat_lt.1 h)
    · rfl
    · exact Utf8.compareLex_eq_lt_iff.2 h

end Identifier

namespace NodeId

variable {a b c : NodeId}

/-! ## The order -/

theorem order_swap (a b : NodeId) : (a.order b).swap = b.order a := by
  rw [order, Ordering.swap_then, Nat.compare_swap, Identifier.order_swap, order]

theorem order_eq_eq_iff : a.order b = .eq ↔ a = b := by
  obtain ⟨space, identifier⟩ := a
  obtain ⟨space', identifier'⟩ := b
  rw [order, Ordering.then_eq_eq, Nat.compare_eq_eq, UInt16.toNat_inj, Identifier.order_eq_eq_iff,
    NodeId.mk.injEq]

theorem order_eq_lt_iff : a.order b = .lt ↔
    a.space < b.space ∨ a.space = b.space ∧ a.identifier.Precedes b.identifier := by
  rw [order, Ordering.then_eq_lt, Nat.compare_eq_lt, Nat.compare_eq_eq, UInt16.toNat_inj,
    Identifier.order_eq_lt_iff, ← UInt16.lt_iff_toNat_lt]

theorem order_self (a : NodeId) : a.order a = .eq := order_eq_eq_iff.2 rfl

theorem order_lt_trans (h : a.order b = .lt) (h' : b.order c = .lt) : a.order c = .lt := by
  rw [order_eq_lt_iff] at *
  rcases h with hspace | ⟨hspace, hprecedes⟩
  · rcases h' with hspace' | ⟨hspace', -⟩
    · exact Or.inl (UInt16.lt_trans hspace hspace')
    · exact Or.inl (hspace' ▸ hspace)
  · rcases h' with hspace' | ⟨hspace', hprecedes'⟩
    · exact Or.inl (hspace ▸ hspace')
    · exact Or.inr ⟨hspace.trans hspace', hprecedes.trans hprecedes'⟩

theorem order_lt_or_eq (h : (a.order b != .gt) = true) : a.order b = .lt ∨ a = b := by
  cases horder : a.order b with
  | lt => exact Or.inl rfl
  | eq => exact Or.inr (order_eq_eq_iff.1 horder)
  | gt => simp [horder] at h

/-- Of two identifiers, one comes before the other, or they are the same, and only one of these. -/
theorem order_trichotomy (a b : NodeId) :
    a.order b = .lt ∧ a ≠ b ∧ b.order a ≠ .lt ∨ a.order b ≠ .lt ∧ a = b ∧ b.order a ≠ .lt ∨
      a.order b ≠ .lt ∧ a ≠ b ∧ b.order a = .lt := by
  have hsame : a = b ↔ a.order b = .eq := order_eq_eq_iff.symm
  rw [Ne, hsame, ← order_swap a b]
  cases a.order b <;> simp

/-! ## Sorting -/

section Neighbours

variable {α : Type} [BEq α] (x y : α) (xs : List α)

theorem eraseReps_loop_append (acc : List α) :
    List.eraseRepsBy.loop (· == ·) x xs acc = acc.reverse ++ (x :: xs).eraseReps := by
  change _ = acc.reverse ++ List.eraseRepsBy.loop (· == ·) x xs []
  induction xs generalizing x acc with
  | nil => simp [List.eraseRepsBy.loop]
  | cons y xs ih =>
    rw [List.eraseRepsBy.loop, List.eraseRepsBy.loop]
    split
    · exact ih x acc
    · rw [ih y (x :: acc), ih y [x]]
      simp

/-- Of equal neighbours the first is dropped. -/
theorem eraseReps_cons_cons : (x :: y :: xs).eraseReps =
    if x == y then (x :: xs).eraseReps else x :: (y :: xs).eraseReps := by
  cases h : x == y with
  | false =>
    change List.eraseRepsBy.loop (· == ·) x (y :: xs) [] = _
    rw [List.eraseRepsBy.loop, h]
    exact eraseReps_loop_append y xs [x]
  | true =>
    change List.eraseRepsBy.loop (· == ·) x (y :: xs) [] = _
    rw [List.eraseRepsBy.loop, h]
    rfl

end Neighbours

theorem mem_eraseReps {ids : List NodeId} : a ∈ ids.eraseReps ↔ a ∈ ids := by
  cases ids with
  | nil => exact Iff.rfl
  | cons b ids =>
    induction ids generalizing b with
    | nil => exact Iff.rfl
    | cons c ids ih =>
      rw [eraseReps_cons_cons]
      by_cases h : b = c
      · subst h
        simp [ih b]
      · simp [h, ih c]

theorem pairwise_eraseReps {ids : List NodeId}
    (h : ids.Pairwise fun a b => (a.order b != .gt) = true) :
    ids.eraseReps.Pairwise fun a b => a.order b = .lt := by
  cases ids with
  | nil => exact .nil
  | cons a ids =>
    induction ids generalizing a with
    | nil => exact List.pairwise_singleton _ _
    | cons b ids ih =>
      obtain ⟨hfirst, hrest⟩ := List.pairwise_cons.1 h
      rw [eraseReps_cons_cons]
      by_cases hab : a = b
      · subst hab
        simpa using ih a hrest
      · have hlt : a.order b = .lt := (order_lt_or_eq (hfirst b (by simp))).resolve_right hab
        simp only [beq_iff_eq, hab, if_false]
        refine List.pairwise_cons.2 ⟨?_, ih b hrest⟩
        -- What follows is not smaller than the next one, which is greater than the first.
        intro c hc
        rcases List.mem_cons.1 (mem_eraseReps.1 hc) with rfl | hc
        · exact hlt
        · rcases order_lt_or_eq ((List.pairwise_cons.1 hrest).1 c hc) with hbc | rfl
          · exact order_lt_trans hlt hbc
          · exact hlt

theorem mem_sortUnique {ids : List NodeId} : a ∈ sortUnique ids ↔ a ∈ ids := by
  rw [sortUnique, mem_eraseReps]
  exact (List.mergeSort_perm ids _).mem_iff

theorem pairwise_sortUnique (ids : List NodeId) :
    (sortUnique ids).Pairwise fun a b => a.order b = .lt := by
  apply pairwise_eraseReps
  apply List.pairwise_mergeSort
  · intro a b c hab hbc
    rcases order_lt_or_eq hab with hab | rfl
    · rcases order_lt_or_eq hbc with hbc | rfl
      · simp [order_lt_trans hab hbc]
      · simp [hab]
    · exact hbc
  · intro a b
    rw [← order_swap a b]
    cases a.order b <;> rfl

theorem nodup_sortUnique (ids : List NodeId) : (sortUnique ids).Nodup := by
  apply (pairwise_sortUnique ids).imp
  rintro a b hab rfl
  simp [order_self] at hab

/-- What comes out of sorting is determined by what goes in, in whatever order and however often. -/
theorem sortUnique_congr {ids ids' : List NodeId} (h : ∀ a, a ∈ ids ↔ a ∈ ids') :
    sortUnique ids = sortUnique ids' := by
  apply List.Perm.eq_of_pairwise _ (pairwise_sortUnique ids) (pairwise_sortUnique ids')
  · rw [List.perm_ext_iff_of_nodup (nodup_sortUnique ids) (nodup_sortUnique ids')]
    intro a
    rw [mem_sortUnique, mem_sortUnique, h]
  · intro a b _ _ hab hba
    rw [← order_swap, hab] at hba
    simp at hba

/-! ## The main statement -/

theorem render_inj : a.render = b.render ↔ a = b := by
  constructor
  · intro h
    have hok : (.ok a : Except ParseError NodeId) = .ok b := by
      rw [← parse_render a, h, parse_render]
    exact Except.ok.inj hok
  · rintro rfl
    rfl

/-- Identifiers are in one order: by namespace, then numbers before texts, then by number, or by the
bytes of the text, which is by its code points.  Two identifiers stand in the same place if they are
written alike.  So sorting a list and dropping equal neighbours gives an increasing list of the same
identifiers, whatever the order in which they were listed. -/
theorem identifiers_are_ordered :
    (∀ a b : NodeId,
      a.order b = .lt ∧ a ≠ b ∧ b.order a ≠ .lt ∨ a.order b ≠ .lt ∧ a = b ∧ b.order a ≠ .lt ∨
        a.order b ≠ .lt ∧ a ≠ b ∧ b.order a = .lt) ∧
    (∀ a b c : NodeId, a.order b = .lt → b.order c = .lt → a.order c = .lt) ∧
    (∀ a b : NodeId, a.order b = .lt ↔
      a.space < b.space ∨ a.space = b.space ∧ a.identifier.Precedes b.identifier) ∧
    (∀ s t : Text, Utf8.encode s < Utf8.encode t ↔ s < t) ∧
    (∀ a b : NodeId, a.order b = .eq ↔ a.render = b.render) ∧
    ∀ ids : List NodeId,
      (sortUnique ids).Pairwise (fun a b => a.order b = .lt) ∧
      (∀ t, t ∈ (sortUnique ids).map render ↔ t ∈ ids.map render) ∧
      ∀ ids', List.Perm ids' ids → sortUnique ids' = sortUnique ids := by
  refine ⟨order_trichotomy, fun a b c => order_lt_trans, fun a b => order_eq_lt_iff,
    fun s t => Utf8.encode_lt_encode_iff, ?_, ?_⟩
  · intro a b
    rw [order_eq_eq_iff, render_inj]
  · intro ids
    refine ⟨pairwise_sortUnique ids, ?_, ?_⟩
    · intro t
      simp only [List.mem_map, mem_sortUnique]
    · intro ids' hperm
      exact sortUnique_congr fun a => hperm.mem_iff

/-- A number and two texts, of which the first ends the characters of three bytes, and the second
begins those of four. -/
theorem identifiers_are_ordered_astral :
    order ⟨1, .numeric 7⟩ ⟨1, .text ['\uffff']⟩ = .lt ∧
      order ⟨1, .text ['\uffff']⟩ ⟨1, .text [Char.ofNat 0x10000]⟩ = .lt ∧
      order ⟨1, .numeric 7⟩ ⟨1, .text [Char.ofNat 0x10000]⟩ = .lt ∧
      sortUnique [⟨1, .text ['\uffff']⟩, ⟨1, .numeric 7⟩, ⟨1, .text ['\uffff']⟩] =
        sortUnique [⟨1, .text ['\uffff']⟩, ⟨1, .text ['\uffff']⟩, ⟨1, .numeric 7⟩] := by
  obtain ⟨-, htrans, -, -, -, hsort⟩ := identifiers_are_ordered
  have hkinds : order ⟨1, .numeric 7⟩ ⟨1, .text ['\uffff']⟩ = .lt := by decide
  have htexts : order ⟨1, .text ['\uffff']⟩ ⟨1, .text [Char.ofNat 0x10000]⟩ = .lt := by decide
  refine ⟨hkinds, htexts, htrans _ _ _ hkinds htexts, ?_⟩
  exact (hsort _).2.2 _ (by decide)

end NodeId

end DeviceTwin
