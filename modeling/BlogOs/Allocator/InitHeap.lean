import BlogOs.Allocator.Heap
import BlogOs.Allocator.FixedSizeBlock
import BlogOs.Lib.X86

/-!
# Mapping the heap (`init_heap` in `src/allocator.rs`)

`init_heap` walks the pages of `[HEAP_START, HEAP_START + HEAP_SIZE)`. For each
page it takes a frame from the frame allocator (`FrameAllocationFailed` when
there is none), maps the page to it, and then calls
`ALLOCATOR.lock().init(HEAP_START, HEAP_SIZE)`. That call sits inside the loop.
So the allocator is initialised once per page, 25 times on a run that returns
`Ok`, and the first time with one page mapped. A run that stops at page `j`
returns `Err` with the allocator already initialised `j` times over the whole
heap, pages `j` to `24` unmapped (`initHeap_inits_per_page`).

The mapper and the frame allocator are the `x86_64` crate's traits, given
here as a parameter `Paging` over their joint state, and the page range comes
from the crate's `Page::containing_address` and `Page::range_inclusive`. The state also keeps a
ghost log of the calls that matter: a page mapped, and an `init` of the global
allocator.
-/

namespace BlogOs.Allocator

open Prog

/-- `PageTableFlags`, as its bits. -/
structure PageTableFlags where
  bits : UInt64
  deriving DecidableEq, Repr

namespace PageTableFlags

def present : PageTableFlags := ⟨1⟩

def writable : PageTableFlags := ⟨2⟩

instance : OrOp PageTableFlags := ⟨fun a b => ⟨a.bits ||| b.bits⟩⟩

end PageTableFlags

/-- `MapToError<Size4KiB>`. -/
inductive MapToError where
  | frameAllocationFailed
  | parentEntryHugePage
  | pageAlreadyMapped (frame : PhysFrame)
  deriving DecidableEq, Repr

/-- `impl Mapper<Size4KiB>` and `impl FrameAllocator<Size4KiB>`, over the state `μ`
of the page tables and the frames. `map_to` may change that state also when it
fails, since it allocates frames for new page tables. -/
structure Paging (μ : Type) where
  /-- `allocate_frame()`. -/
  allocateFrame : μ → Option PhysFrame × μ
  /-- `map_to(page, frame, flags, frame_allocator)`, the `MapperFlush` left out. -/
  mapTo : Page → PhysFrame → PageTableFlags → μ → Except MapToError Unit × μ

/-- A call of the ghost log. -/
inductive Event where
  /-- `map_to` returned `Ok` for the page. -/
  | mapped (page : Page)
  /-- `ALLOCATOR.lock().init(heap_start, heap_size)`. -/
  | heapInit (heapStart heapSize : Nat)
  deriving DecidableEq, Repr

/-- What `init_heap` works on: the paging state, the global allocator, and
the log of calls, oldest first. -/
structure Kernel (μ ρ : Type) where
  machine : μ
  allocator : FixedSizeBlockAllocator ρ
  events : List Event

/-- The calls of a round of the loop that ends: the page is mapped, then the
allocator initialised. -/
def roundEvents (page : Page) : List Event := [.mapped page, .heapInit heapStart heapSize]

/-- `page_range` of `init_heap`. `HEAP_START` and the last heap byte are
canonical addresses, so `VirtAddr::new` and the `VirtAddr` sum give the plain
numbers. -/
def heapPages (X : X86_64) : List Page :=
  let heapEnd := heapStart + heapSize - 1
  X.pageRangeInclusive (X.pageContaining heapStart) (X.pageContaining heapEnd)

namespace Kernel

variable (X : X86_64) {μ ρ : Type} (m : Paging μ) (f : FallbackHeap ρ)

/-- `frame_allocator.allocate_frame()`. -/
def allocateFrame : Prog MapToError (Kernel μ ρ) (Option PhysFrame) := fun s =>
  .ok (m.allocateFrame s.machine).1 { s with machine := (m.allocateFrame s.machine).2 }

/-- `mapper.map_to(page, frame, flags, frame_allocator)?.flush()`. -/
def mapTo (page : Page) (frame : PhysFrame) (flags : PageTableFlags) :
    Prog MapToError (Kernel μ ρ) Unit := fun s =>
  match m.mapTo page frame flags s.machine with
  | (.ok (), t) => .ok () { s with machine := t, events := s.events ++ [.mapped page] }
  | (.error e, t) => .err e { s with machine := t }

/-- `ALLOCATOR.lock().init(HEAP_START, HEAP_SIZE)`. -/
def heapInit : Prog MapToError (Kernel μ ρ) Unit := do
  focus Kernel.allocator (fun s a => { s with allocator := a })
    (FixedSizeBlockAllocator.init f heapStart heapSize)
  modify fun s => { s with events := s.events ++ [.heapInit heapStart heapSize] }

/-- The allocator after `init(HEAP_START, HEAP_SIZE)`. -/
def initAllocator (a : FixedSizeBlockAllocator ρ) : FixedSizeBlockAllocator ρ :=
  { a with fallbackAllocator := f.init heapStart heapSize a.fallbackAllocator }

/-- One round of the loop of `init_heap`. -/
def mapHeapPage (page : Page) : Prog MapToError (Kernel μ ρ) Unit := do
  let frame ← okOr .frameAllocationFailed (← allocateFrame m)
  let flags := PageTableFlags.present ||| PageTableFlags.writable
  mapTo m page frame flags
  -- the source's comment says "initialize the heap only after mapping the heap
  -- pages", but the call is in the loop body
  heapInit f

/-- `for page in page_range`, with `?` leaving at the first error. -/
def mapPages : List Page → Prog MapToError (Kernel μ ρ) Unit
  | [] => pure ()
  | page :: rest => do
    mapHeapPage m f page
    mapPages rest

/-- `init_heap(mapper, frame_allocator)`. -/
def initHeap : Prog MapToError (Kernel μ ρ) Unit := do
  mapPages m f (heapPages X)
  pure ()

/-! ## One round -/

section Round

variable {m f} {s : Kernel μ ρ} {page : Page}

theorem heapInit_apply (s : Kernel μ ρ) :
    (heapInit f : Prog MapToError (Kernel μ ρ) Unit) s =
      .ok () { s with
        allocator := initAllocator f s.allocator
        events := s.events ++ [.heapInit heapStart heapSize] } := rfl

/-- No frame: the round fails with `FrameAllocationFailed` before it maps anything. -/
theorem mapHeapPage_of_none {t : μ} (h : m.allocateFrame s.machine = (none, t)) :
    mapHeapPage m f page s = .err .frameAllocationFailed { s with machine := t } := by
  simp only [mapHeapPage, bind_apply, allocateFrame, h, Outcome.bind_ok, okOr_none, throw_apply,
    Outcome.bind_err]

theorem mapHeapPage_of_mapTo_err {frame : PhysFrame} {t t' : μ} {e : MapToError}
    (h : m.allocateFrame s.machine = (some frame, t))
    (hm : m.mapTo page frame (PageTableFlags.present ||| PageTableFlags.writable) t = (.error e, t')) :
    mapHeapPage m f page s = .err e { s with machine := t' } := by
  simp only [mapHeapPage, bind_apply, allocateFrame, h, Outcome.bind_ok, okOr_some, pure_apply,
    mapTo, hm, Outcome.bind_err]

/-- A mapped page is followed by an `init` of the allocator. -/
theorem mapHeapPage_of_mapTo_ok {frame : PhysFrame} {t t' : μ}
    (h : m.allocateFrame s.machine = (some frame, t))
    (hm : m.mapTo page frame (PageTableFlags.present ||| PageTableFlags.writable) t = (.ok (), t')) :
    mapHeapPage m f page s =
      .ok () ⟨t', initAllocator f s.allocator, s.events ++ roundEvents page⟩ := by
  simp only [mapHeapPage, bind_apply, allocateFrame, h, Outcome.bind_ok, okOr_some, pure_apply,
    mapTo, hm, heapInit_apply, List.append_assoc]
  rfl

/-- **One round** maps the page and initialises the allocator, or fails with
nothing logged. It never panics. -/
theorem mapHeapPage_cases (page : Page) (s : Kernel μ ρ) :
    (∃ s', mapHeapPage m f page s = .ok () s' ∧ s'.events = s.events ++ roundEvents page) ∨
      ∃ e s', mapHeapPage m f page s = .err e s' ∧ s'.events = s.events := by
  rcases hframe : m.allocateFrame s.machine with ⟨frame, t⟩
  cases frame with
  | none => exact .inr ⟨_, _, mapHeapPage_of_none hframe, rfl⟩
  | some frame =>
    rcases hmap : m.mapTo page frame (PageTableFlags.present ||| PageTableFlags.writable) t with
      ⟨r, t'⟩
    cases r with
    | error e => exact .inr ⟨_, _, mapHeapPage_of_mapTo_err hframe hmap, rfl⟩
    | ok u => exact .inl ⟨_, mapHeapPage_of_mapTo_ok hframe hmap, rfl⟩

end Round

/-! ## The loop -/

section Loop

variable {X m f}

/-- **A run of the loop** logs the round of every page, or stops with an
error after the rounds of the first `j` pages. -/
theorem mapPages_cases : ∀ (pages : List Page) (s : Kernel μ ρ),
    (∃ s', mapPages m f pages s = .ok () s' ∧ s'.events = s.events ++ pages.flatMap roundEvents) ∨
      ∃ e s', ∃ j < pages.length, mapPages m f pages s = .err e s' ∧
        s'.events = s.events ++ (pages.take j).flatMap roundEvents
  | [], s => .inl ⟨s, rfl, by simp⟩
  | page :: rest, s => by
    rcases mapHeapPage_cases (m := m) (f := f) page s with ⟨s₁, h₁, he₁⟩ | ⟨e, s₁, h₁, he₁⟩
    · -- the round ended, and the rest of the loop runs from its state
      rcases mapPages_cases rest s₁ with ⟨s₂, h₂, he₂⟩ | ⟨e, s₂, j, hj, h₂, he₂⟩
      · refine .inl ⟨s₂, by simp only [mapPages, bind_apply, h₁, Outcome.bind_ok, h₂], ?_⟩
        rw [he₂, he₁, List.flatMap_cons, List.append_assoc]
      · refine .inr ⟨e, s₂, j + 1, by simpa using hj, ?_, ?_⟩
        · simp only [mapPages, bind_apply, h₁, Outcome.bind_ok, h₂]
        · rw [he₂, he₁, List.take_succ_cons, List.flatMap_cons, List.append_assoc]
    · refine .inr ⟨e, s₁, 0, by simp, ?_, by simp [he₁]⟩
      simp only [mapPages, bind_apply, h₁, Outcome.bind_err]

theorem initHeap_cases (s : Kernel μ ρ) :
    (∃ s', initHeap X m f s = .ok () s' ∧ s'.events = s.events ++ (heapPages X).flatMap roundEvents) ∨
      ∃ e s', ∃ j < (heapPages X).length, initHeap X m f s = .err e s' ∧
        s'.events = s.events ++ ((heapPages X).take j).flatMap roundEvents := by
  rcases mapPages_cases (m := m) (f := f) (heapPages X) s with ⟨s', h, he⟩ | ⟨e, s', j, hj, h, he⟩
  · exact .inl ⟨s', by simp only [initHeap, bind_apply, h, Outcome.bind_ok, pure_apply], he⟩
  · exact .inr ⟨e, s', j, hj, by simp only [initHeap, bind_apply, h, Outcome.bind_err], he⟩

end Loop

/-! ## The heap pages and the log -/

/-- The heap is the 25 pages from `HEAP_START` on. -/
theorem heapPages_eq : heapPages X = (List.range 25).map fun k => ⟨heapStart + pageSize * k⟩ := by
  have hstart : X.pageContaining heapStart = ⟨heapStart⟩ := X.pageContaining_of_aligned (by decide)
  have hend : X.pageContaining (heapStart + heapSize - 1) = ⟨heapStart + pageSize * 24⟩ := by
    rw [X.pageContaining_eq]
    decide
  simp only [heapPages, hstart, hend, X.pageRangeInclusive_add]

theorem mapped_mem_flatMap_roundEvents {pages : List Page} {p : Page} :
    Event.mapped p ∈ pages.flatMap roundEvents ↔ p ∈ pages := by
  simp [roundEvents]

theorem heapInit_mem_flatMap_roundEvents {pages : List Page} (h : pages ≠ []) :
    Event.heapInit heapStart heapSize ∈ pages.flatMap roundEvents := by
  obtain ⟨p, hp⟩ := List.exists_mem_of_ne_nil pages h
  exact List.mem_flatMap.mpr ⟨p, hp, by simp [roundEvents]⟩

/-- Every round initialises the allocator once. -/
theorem count_heapInit_flatMap_roundEvents (pages : List Page) :
    (pages.flatMap roundEvents).count (.heapInit heapStart heapSize) = pages.length := by
  induction pages with
  | nil => rfl
  | cons p ps ih => simp [roundEvents, ih]

/-! ## A frame allocator that runs out -/

/-- A frame allocator with `n` frames left, over page tables that map any page
without a new table: frame `n` goes out next. -/
def framePool : Paging Nat where
  allocateFrame n := if n = 0 then (none, 0) else (some ⟨n * pageSize⟩, n - 1)
  mapTo _ _ _ n := (.ok (), n)

/-- With fewer frames than pages, the loop runs one round per frame and stops
at the next allocation. -/
theorem mapPages_framePool (f : FallbackHeap ρ) : ∀ (pages : List Page) (s : Kernel Nat ρ),
    s.machine < pages.length →
      ∃ s', mapPages framePool f pages s = .err .frameAllocationFailed s' ∧
        s'.events = s.events ++ (pages.take s.machine).flatMap roundEvents
  | [], _, h => absurd h (Nat.not_lt_zero _)
  | page :: rest, ⟨0, a, evs⟩, _ => by
    have hnone : framePool.allocateFrame 0 = (none, 0) := rfl
    refine ⟨⟨0, a, evs⟩, ?_, by simp⟩
    simp only [mapPages, bind_apply, mapHeapPage_of_none (f := f) (s := ⟨0, a, evs⟩) hnone,
      Outcome.bind_err]
  | page :: rest, ⟨n + 1, a, evs⟩, h => by
    -- the round takes frame `n + 1`, and the rest of the loop has `n` left
    have hframe : framePool.allocateFrame (n + 1) = (some ⟨(n + 1) * pageSize⟩, n) := rfl
    have hmap : framePool.mapTo page ⟨(n + 1) * pageSize⟩
        (PageTableFlags.present ||| PageTableFlags.writable) n = (.ok (), n) := rfl
    have hround := mapHeapPage_of_mapTo_ok (f := f) (s := ⟨n + 1, a, evs⟩) hframe hmap
    obtain ⟨s', hrest, he⟩ := mapPages_framePool f rest ⟨n, initAllocator f a, evs ++ roundEvents page⟩
      (by simpa using h)
    refine ⟨s', by simp only [mapPages, bind_apply, hround, Outcome.bind_ok, hrest], ?_⟩
    rw [he, List.take_succ_cons, List.flatMap_cons, List.append_assoc]

/--
**`init_heap` initialises the allocator once per page.** For any mapper and
frame allocator, a run maps all 25 heap pages and logs each with an `init`
after it, or returns `Err` at some page `j` with the rounds of pages `0` to
`j - 1` logged; it never panics. A run that returns `Ok` so calls `init` 25
times, the first after one page is mapped. With a frame allocator that has `j`
frames, `0 < j < 25`, the run returns `FrameAllocationFailed` after `init` has
been called over the whole heap while page `j` is not mapped.
-/
theorem initHeap_inits_per_page (m : Paging μ) (f : FallbackHeap ρ) :
    heapPages X = (List.range 25).map (fun k => ⟨heapStart + pageSize * k⟩) ∧
      (∀ s : Kernel μ ρ,
        (∃ s', initHeap X m f s = .ok () s' ∧ s'.events = s.events ++ (heapPages X).flatMap roundEvents) ∨
          ∃ e s', ∃ j < 25, initHeap X m f s = .err e s' ∧
            s'.events = s.events ++ ((heapPages X).take j).flatMap roundEvents) ∧
      ((heapPages X).flatMap roundEvents).count (.heapInit heapStart heapSize) = 25 ∧
      ((heapPages X).flatMap roundEvents).take 2 = [.mapped ⟨heapStart⟩, .heapInit heapStart heapSize] ∧
      ∀ j, 0 < j → j < 25 → ∀ a : FixedSizeBlockAllocator ρ, ∃ s',
        initHeap X framePool f ⟨j, a, []⟩ = .err .frameAllocationFailed s' ∧
          s'.events = ((heapPages X).take j).flatMap roundEvents ∧
          Event.heapInit heapStart heapSize ∈ s'.events ∧
          Event.mapped ⟨heapStart + pageSize * j⟩ ∉ s'.events := by
  have hlen : (heapPages X).length = 25 := by rw [heapPages_eq X, List.length_map, List.length_range]
  refine ⟨heapPages_eq X, fun s => ?_, ?_, ?_, fun j hj0 hj a => ?_⟩
  · rw [← hlen]
    exact initHeap_cases s
  · rw [count_heapInit_flatMap_roundEvents, hlen]
  · rw [heapPages_eq X]
    rfl
  · obtain ⟨s', h, he⟩ := mapPages_framePool f (heapPages X) ⟨j, a, []⟩ (by rw [hlen]; exact hj)
    have hrun : initHeap X framePool f ⟨j, a, []⟩ = .err .frameAllocationFailed s' := by
      simp only [initHeap, bind_apply, h, Outcome.bind_err]
    have htake : (heapPages X).take j = (List.range j).map fun k => ⟨heapStart + pageSize * k⟩ := by
      rw [heapPages_eq X, ← List.map_take, List.take_range, Nat.min_eq_left hj.le]
    have hevents : s'.events = ((heapPages X).take j).flatMap roundEvents := by
      rw [he, List.nil_append]
    refine ⟨s', hrun, hevents, ?_, ?_⟩
    · refine hevents ▸ heapInit_mem_flatMap_roundEvents ?_
      rw [htake]
      simpa using Nat.pos_iff_ne_zero.mp hj0
    · -- the pages logged are those below `j`
      rw [hevents, mapped_mem_flatMap_roundEvents, htake]
      simp only [List.mem_map, List.mem_range, Page.mk.injEq, not_exists, not_and]
      intro k hk heq
      unfold pageSize at heq
      omega

end Kernel

end BlogOs.Allocator
