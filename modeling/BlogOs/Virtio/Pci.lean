import Mathlib

/-!
# Finding the VirtIO device on the PCI bus (`src/virtio/pci.rs`)

`pci::scan` walks the buses `0..=255` and, on each, the functions that
virtio-drivers' `PciRoot::enumerate_bus` yields, and returns at the first
function whose vendor is `0x1AF4`, the vendor ID of VirtIO devices.

`enumerate_bus` reads the configuration space through port I/O and is not part
of this repository. Here it is the parameter `PciRoot`: the functions of each
bus with their headers, in the order it yields them. It carries the one fact
about that code that `scan`'s result depends on: a function enumerated on bus
`b` has `bus = b`. The `println!`s go to the serial port and change nothing
that `scan` returns, so they are left out.

`scan` does not return the function it found. It builds
`DeviceFunction { bus: bus_num, device: device_func.device, function: 0 }`, so
its result is the first VirtIO function's bus and device with function `0`
(`scan_eq`): it finds a device exactly when one is enumerated
(`scan_isSome_iff`), and it names the wrong function whenever the first VirtIO
function is not function `0` of its device (`scan_drops_function`).
-/

namespace BlogOs.Virtio

/-- `DeviceFunction`: the address of a PCI function. -/
structure DeviceFunction where
  bus : UInt8
  device : UInt8
  function : UInt8
  deriving DecidableEq, Repr

/-- The fields of `DeviceFunctionInfo` that `scan` reads: both IDs are printed,
the vendor is compared. -/
structure DeviceFunctionInfo where
  vendorId : UInt16
  deviceId : UInt16
  deriving DecidableEq, Repr

/-- `PciRoot<PciConfigIo>` as `scan` sees it: what `enumerate_bus(bus)` yields. -/
structure PciRoot where
  enumerateBus : UInt8 → List (DeviceFunction × DeviceFunctionInfo)
  /-- The enumerated functions of bus `b` are on bus `b`. -/
  on_bus : ∀ b, ∀ p ∈ enumerateBus b, p.1.bus = b

/-- The inner loop, over the functions of bus `bus_num` not yet looked at. -/
def scanBus (busNum : UInt8) : List (DeviceFunction × DeviceFunctionInfo) → Option DeviceFunction
  | [] => none
  | (deviceFunc, header) :: rest =>
    if header.vendorId = 0x1AF4 then some ⟨busNum, deviceFunc.device, 0⟩
    else scanBus busNum rest

/-- The outer loop, over the buses not yet looked at; the inner loop's `return`
leaves both. -/
def scanBuses (root : PciRoot) : List UInt8 → Option DeviceFunction
  | [] => none
  | busNum :: rest =>
    match scanBus busNum (root.enumerateBus busNum) with
    | some deviceFunction => some deviceFunction
    | none => scanBuses root rest

/-- `0..=255` over `u8`. -/
def allBuses : List UInt8 := (List.range 256).map UInt8.ofNat

/-- `pci::scan(root)`. -/
def scan (root : PciRoot) : Option DeviceFunction := scanBuses root allBuses

/-! ## What the scan looks for -/

/-- The test of the inner loop, as a Boolean. -/
def isVirtio (p : DeviceFunction × DeviceFunctionInfo) : Bool := p.2.vendorId == 0x1AF4

/-- Every function on the buses `bs`, in the order the loops pass them. -/
def enumerated (root : PciRoot) (bs : List UInt8) : List (DeviceFunction × DeviceFunctionInfo) :=
  bs.flatMap root.enumerateBus

/-- The first VirtIO function in enumeration order, with its header. -/
def firstVirtio (root : PciRoot) : Option (DeviceFunction × DeviceFunctionInfo) :=
  (enumerated root allBuses).find? isVirtio

/-- What `scan` makes of a function it stops at. -/
def found (p : DeviceFunction × DeviceFunctionInfo) : DeviceFunction :=
  { p.1 with function := 0 }

theorem scanBus_eq (busNum : UInt8) (l : List (DeviceFunction × DeviceFunctionInfo)) :
    scanBus busNum l = (l.find? isVirtio).map fun p => ⟨busNum, p.1.device, 0⟩ := by
  induction l with
  | nil => rfl
  | cons p rest ih =>
    obtain ⟨deviceFunc, header⟩ := p
    by_cases hv : header.vendorId = 0x1AF4
    · have hp : isVirtio (deviceFunc, header) = true := beq_iff_eq.mpr hv
      rw [scanBus, if_pos hv, List.find?_cons_of_pos hp, Option.map_some]
    · have hp : ¬ isVirtio (deviceFunc, header) = true := fun h => hv (beq_iff_eq.mp h)
      rw [scanBus, if_neg hv, List.find?_cons_of_neg hp, ih]

/-- The two loops are one search over the concatenated enumeration. The bus the
result names is the loop's `bus_num`, which is the found function's own bus. -/
theorem scanBuses_eq (root : PciRoot) (bs : List UInt8) :
    scanBuses root bs = ((enumerated root bs).find? isVirtio).map found := by
  induction bs with
  | nil => rfl
  | cons b rest ih =>
    rw [scanBuses, scanBus_eq, enumerated, List.flatMap_cons, List.find?_append]
    cases hb : (root.enumerateBus b).find? isVirtio with
    | some p =>
      -- the function found is on bus `b`
      have hbus : p.1.bus = b := root.on_bus b p (List.mem_of_find?_eq_some hb)
      rw [Option.map_some, Option.some_or, Option.map_some, found, ← hbus]
    | none => rw [Option.map_none, Option.none_or, ih, enumerated]

theorem scan_eq (root : PciRoot) : scan root = (firstVirtio root).map found :=
  scanBuses_eq root allBuses

theorem mem_allBuses (b : UInt8) : b ∈ allBuses :=
  List.mem_map.mpr ⟨b.toNat, List.mem_range.mpr b.toNat_lt, UInt8.ofNat_toNat⟩

/-- `scan` finds a device exactly when some bus enumerates a VirtIO function. -/
theorem scan_isSome_iff (root : PciRoot) :
    (scan root).isSome ↔ ∃ b p, p ∈ root.enumerateBus b ∧ p.2.vendorId = 0x1AF4 := by
  rw [scan_eq, Option.isSome_map, firstVirtio, List.find?_isSome]
  constructor
  · rintro ⟨p, hp, hv⟩
    obtain ⟨b, -, hpb⟩ := List.mem_flatMap.mp hp
    exact ⟨b, p, hpb, beq_iff_eq.mp hv⟩
  · rintro ⟨b, p, hpb, hv⟩
    exact ⟨p, List.mem_flatMap.mpr ⟨b, mem_allBuses b, hpb⟩, beq_iff_eq.mpr hv⟩

/--
**`scan` names function 0 of the device it found.** When the first VirtIO
function in enumeration order is not function 0 of its device, `scan` returns
function 0 of that device, which is not the function it found.
-/
theorem scan_drops_function {root : PciRoot} {p : DeviceFunction × DeviceFunctionInfo}
    (hfirst : firstVirtio root = some p) (hf : p.1.function ≠ 0) :
    scan root = some ⟨p.1.bus, p.1.device, 0⟩ ∧ scan root ≠ some p.1 := by
  have hscan : scan root = some ⟨p.1.bus, p.1.device, 0⟩ := by
    rw [scan_eq, hfirst, Option.map_some]
    rfl
  refine ⟨hscan, fun h => hf ?_⟩
  rw [hscan] at h
  exact congrArg DeviceFunction.function (Option.some.inj h).symm

/-- Bus 0 of a machine whose device 4 is multi-function: function 0 is an Intel
IDE controller, function 1 a VirtIO block device. -/
def multiFunctionBus : List (DeviceFunction × DeviceFunctionInfo) :=
  [(⟨0, 0, 0⟩, ⟨0x8086, 0x1237⟩), (⟨0, 4, 0⟩, ⟨0x8086, 0x7010⟩), (⟨0, 4, 1⟩, ⟨0x1AF4, 0x1001⟩)]

/-- The machine of `multiFunctionBus`, with nothing on the other buses. -/
def multiFunctionRoot : PciRoot where
  enumerateBus b := if b = 0 then multiFunctionBus else []
  on_bus b p hp := by
    by_cases hb : b = 0
    · rw [if_pos hb] at hp
      subst hb
      simp only [multiFunctionBus, List.mem_cons, List.not_mem_nil, or_false] at hp
      rcases hp with rfl | rfl | rfl <;> rfl
    · rw [if_neg hb] at hp
      exact absurd hp List.not_mem_nil

theorem scan_drops_function_multi :
    firstVirtio multiFunctionRoot = some (⟨0, 4, 1⟩, ⟨0x1AF4, 0x1001⟩) ∧
      (⟨0, 4, 1⟩ : DeviceFunction).function ≠ 0 ∧
      scan multiFunctionRoot = some ⟨0, 4, 0⟩ ∧ scan multiFunctionRoot ≠ some ⟨0, 4, 1⟩ := by
  have hfirst : firstVirtio multiFunctionRoot = some (⟨0, 4, 1⟩, ⟨0x1AF4, 0x1001⟩) := rfl
  have hf : (⟨0, 4, 1⟩ : DeviceFunction).function ≠ 0 := by decide
  exact ⟨hfirst, hf, scan_drops_function hfirst hf⟩

end BlogOs.Virtio
