import Mathlib

/-!
# Byte spans

A span is the half-open byte range `[start, start + size)`. Heap allocators hand
out spans and keep spans on free lists, and what they promise is said with
three relations: a span lies `Within` another, two spans are `Apart` (one ends
before the other starts), and a list of spans is pairwise apart.

`Apart` is arithmetic on the ends, so that `omega` decides it; `disjoint_bytes`
and `apart_iff_disjoint` say it is disjointness of the byte sets.

The one structural fact about lists is `pairwise_carve`: an allocator that
takes a span off its free list and puts back pieces of it never makes two spans
overlap. `total` adds up the sizes, and carving loses exactly the bytes no
piece covers.
-/

/-- The bytes `[start, start + size)`. -/
structure Span where
  start : Nat
  size : Nat
  deriving DecidableEq, Repr

namespace Span

/-- One past the last byte. -/
def stop (r : Span) : Nat := r.start + r.size

/-- The bytes of the span. -/
def bytes (r : Span) : Set Nat := Set.Ico r.start r.stop

/-- `r` lies inside `q`. -/
def Within (r q : Span) : Prop := q.start ≤ r.start ∧ r.stop ≤ q.stop

/-- `r` and `q` share no byte: one ends before the other starts. -/
def Apart (r q : Span) : Prop := r.stop ≤ q.start ∨ q.stop ≤ r.start

instance (r q : Span) : Decidable (r.Within q) := inferInstanceAs (Decidable (_ ∧ _))

instance (r q : Span) : Decidable (r.Apart q) := inferInstanceAs (Decidable (_ ∨ _))

@[simp] theorem stop_mk (a n : Nat) : (⟨a, n⟩ : Span).stop = a + n := rfl

variable {r q r' q' : Span}

theorem Apart.symm (h : r.Apart q) : q.Apart r := Or.symm h

theorem apart_comm : r.Apart q ↔ q.Apart r := ⟨Apart.symm, Apart.symm⟩

theorem Within.refl (r : Span) : r.Within r := ⟨le_rfl, le_rfl⟩

theorem Within.trans (h : r.Within q) (h' : q.Within q') : r.Within q' := by
  unfold Within at *
  omega

/-- Spans inside two spans that are apart are apart. -/
theorem Apart.mono (h : r.Apart q) (hr : r'.Within r) (hq : q'.Within q) : r'.Apart q' := by
  unfold Apart Within stop at *
  omega

/-- Two spans that hold a byte each and are apart start at different addresses. -/
theorem Apart.start_ne (h : r.Apart q) (hr : 0 < r.size) (hq : 0 < q.size) : r.start ≠ q.start := by
  unfold Apart stop at h
  omega

theorem bytes_mono (h : r.Within q) : r.bytes ⊆ q.bytes := Set.Ico_subset_Ico h.1 h.2

theorem disjoint_bytes (h : r.Apart q) : Disjoint r.bytes q.bytes := by
  rw [bytes, bytes, Set.Ico_disjoint_Ico]
  rcases h with h | h
  · exact le_trans (min_le_left _ _) (le_trans h (le_max_right _ _))
  · exact le_trans (min_le_right _ _) (le_trans h (le_max_left _ _))

/-- For spans that hold a byte, being apart is having disjoint bytes. -/
theorem apart_iff_disjoint (hr : 0 < r.size) (hq : 0 < q.size) :
    r.Apart q ↔ Disjoint r.bytes q.bytes := by
  refine ⟨disjoint_bytes, fun h => ?_⟩
  rw [bytes, bytes, Set.Ico_disjoint_Ico] at h
  unfold Apart stop at *
  omega

/-- The sizes of a list of spans, added up. -/
def total (l : List Span) : Nat := (l.map size).sum

@[simp] theorem total_nil : total [] = 0 := rfl

@[simp] theorem total_cons (r : Span) (l : List Span) : total (r :: l) = r.size + total l := by
  simp [total]

@[simp] theorem total_append (l l' : List Span) : total (l ++ l') = total l + total l' := by
  simp [total]

theorem total_perm {l l' : List Span} (h : l.Perm l') : total l = total l' :=
  (h.map size).sum_eq

/-- **Carving a span**: replacing a span of a pairwise-apart list by pieces
inside it that are apart from each other keeps the list pairwise apart. -/
theorem pairwise_carve {r : Span} {rest pieces : List Span} (h : (r :: rest).Pairwise Apart)
    (hin : ∀ p ∈ pieces, p.Within r) (hp : pieces.Pairwise Apart) :
    (pieces ++ rest).Pairwise Apart := by
  rw [List.pairwise_cons] at h
  rw [List.pairwise_append]
  exact ⟨hp, h.2, fun p hp' x hx => (h.1 x hx).mono (hin p hp') (Within.refl x)⟩

/-- A pairwise-apart list stays so when its spans are reordered. -/
theorem pairwise_perm {l l' : List Span} (h : l.Pairwise Apart) (hl : l.Perm l') :
    l'.Pairwise Apart :=
  h.perm hl Apart.symm

/-- **An owned span carved into pieces.** When one span of a pairwise-apart
list in the heap is replaced by pieces inside it, apart from each other, the
spans stay in the heap and apart. `old` and `new` may be in any order. -/
theorem carve {heap r : Span} {old new pieces rest : List Span} (hold : old.Perm (r :: rest))
    (hnew : new.Perm (pieces ++ rest)) (hin : ∀ q ∈ old, q.Within heap)
    (hap : old.Pairwise Apart) (hpw : ∀ q ∈ pieces, q.Within r) (hpa : pieces.Pairwise Apart) :
    (∀ q ∈ new, q.Within heap) ∧ new.Pairwise Apart := by
  have hr : r.Within heap := hin r (hold.mem_iff.mpr (List.mem_cons_self))
  refine ⟨fun q hq => ?_, ?_⟩
  · rcases List.mem_append.mp (hnew.mem_iff.mp hq) with hq | hq
    · exact (hpw q hq).trans hr
    · exact hin q (hold.mem_iff.mpr (List.mem_cons_of_mem r hq))
  · exact pairwise_perm (pairwise_carve (pairwise_perm hap hold) hpw hpa) hnew.symm

/-- `r` lies after `q`: `q` ends before `r` starts. -/
def After (r q : Span) : Prop := q.stop ≤ r.start

theorem After.apart (h : r.After q) : r.Apart q := Or.inr h

/-- **Spans in address order fit their range**: spans that each lie after the
ones behind them in the list, all inside `[lo, hi)`, add up to at most `hi - lo`. -/
theorem total_le_of_after {lo : Nat} : ∀ {l : List Span} {hi : Nat}, l.Pairwise After →
    (∀ r ∈ l, lo ≤ r.start ∧ r.stop ≤ hi) → total l ≤ hi - lo
  | [], _, _, _ => by simp
  | r :: l, hi, hs, hin => by
    rw [List.pairwise_cons] at hs
    -- the spans behind `r` lie in `[lo, r.start)`
    have hrest : total l ≤ r.start - lo :=
      total_le_of_after hs.2 fun q hq => ⟨(hin q (List.mem_cons_of_mem r hq)).1, hs.1 q hq⟩
    have hr := hin r List.mem_cons_self
    rw [total_cons]
    unfold stop at hr
    omega

/-- Spans that hold a byte each are no more than their bytes. -/
theorem length_le_total {l : List Span} (h : ∀ r ∈ l, 0 < r.size) : l.length ≤ total l := by
  induction l with
  | nil => simp
  | cons r l ih =>
    have hr := h r List.mem_cons_self
    have hl := ih fun q hq => h q (List.mem_cons_of_mem r hq)
    rw [List.length_cons, total_cons]
    omega

/-- Carving changes the total by what the pieces cover of the carved span. -/
theorem total_carve {r : Span} {old new pieces rest : List Span} (hold : old.Perm (r :: rest))
    (hnew : new.Perm (pieces ++ rest)) : total new + r.size = total old + total pieces := by
  rw [total_perm hnew, total_perm hold, total_append, total_cons]
  omega

end Span
