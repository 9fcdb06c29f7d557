import Verbifrost.Mlx5MemoryRegion

/-!
# What a page list describes

The array that `build_pas_list` fills, read entry by entry. The list is counted
from the length alone and starts at the first byte of the region, so it covers
every region; its entries are page addresses only if the region starts on a
page.
-/

namespace Verbifrost.Mlx5PageList

open Verbifrost.ByteMemory Verbifrost.ReferenceHeap
open Verbifrost.Mlx5Verbs Verbifrost.Mlx5MemoryRegion

set_option autoImplicit false

/-- Entry `index` of the array, decoded. -/
def listedPage (list : PasList) (index : Nat) : Nat := (loadBE list.pas (8 * index) 64).toNat

structure DescribesRegion (start length : Nat) (list : PasList) : Prop where
  aligned : ∀ index < list.npages.toNat, listedPage list index % 4096 = 0
  covers : ∀ address, start ≤ address → address < start + length →
    ∃ index < list.npages.toNat,
      listedPage list index ≤ address ∧ address < listedPage list index + 4096

theorem fill_pas_entry (baseAddr : BitVec 64) (count : Nat) (pas : Bytes) (index : Nat)
    (inside : index < count) :
    loadBE (fillPas baseAddr count pas) (8 * index) 64 = pasEntry baseAddr index := by
  induction count with
  | zero => exact absurd inside (Nat.not_lt_zero index)
  | succ count induction =>
      rw [fillPas]
      rcases Nat.lt_succ_iff_lt_or_eq.mp inside with earlier | rfl
      · rw [load_be_store_disjoint (by decide) _ _ _ _ (by omega)]
        exact induction earlier
      · exact load_be_store_swap (by decide) _ _ _

theorem pas_entry_mod (baseAddr : BitVec 64) (index : Nat) :
    (pasEntry baseAddr index).toNat = (baseAddr.toNat + 4096 * index) % 2 ^ 64 := by
  have size : (pageSize.setWidth 64).toNat = 4096 := rfl
  rw [pasEntry, BitVec.toNat_add, BitVec.toNat_mul, BitVec.toNat_ofNat, size]
  omega

theorem pas_entry_nat (baseAddr : BitVec 64) (index : Nat)
    (bound : baseAddr.toNat + index * 4096 < 2 ^ 64) :
    (pasEntry baseAddr index).toNat = baseAddr.toNat + index * 4096 := by
  rw [pas_entry_mod]
  omega

theorem fill_pas_outside (baseAddr : BitVec 64) (count : Nat) (pas : Bytes) (index : Nat)
    (beyond : 8 * count ≤ index) : fillPas baseAddr count pas index = pas index := by
  induction count with
  | zero => rfl
  | succ count induction =>
      rw [fillPas, store_outside _ _ _ _ (Or.inr (by omega))]
      exact induction (by omega)

/-- The largest count belongs to a length of `2^32 - 4096`; longer ones wrap to few pages. -/
theorem pas_npages_bounds (length : BitVec 32) :
    1 ≤ (pasNpages length).toNat ∧ (pasNpages length).toNat < 2 ^ 20 := by
  rw [pas_npages_nat]
  omega

/-- The mask is the complement of a signed constant, so all ones above bit 11. -/
theorem not_4095_bit (index : Nat) (inside : index < 32) :
    (~~~4095#32)[index] = decide (12 ≤ index) := by
  revert index
  decide

theorem and_not_4095 (size : BitVec 32) : size &&& ~~~4095#32 = (size >>> 12) <<< 12 := by
  apply BitVec.eq_of_getElem_eq
  intro index inside
  rw [BitVec.getElem_and, not_4095_bit index inside, BitVec.getElem_shiftLeft]
  by_cases low : index < 12
  · simp [low]
  · have shifted : 12 + (index - 12) = index := by omega
    have kept : 12 ≤ index := Nat.not_lt.mp low
    simp [low, kept, BitVec.getElem_ushiftRight, shifted, BitVec.getLsbD_eq_getElem inside]

theorem and_not_4095_nat (size : BitVec 32) :
    (size &&& ~~~4095#32).toNat = size.toNat / 4096 * 4096 := by
  have bound := size.isLt
  rw [and_not_4095, BitVec.toNat_shiftLeft, BitVec.toNat_ushiftRight, Nat.shiftLeft_eq,
    Nat.shiftRight_eq_div_pow]
  omega

structure AllocationExact (npages : BitVec 32) : Prop where
  sizeUnwrapped : (npages * 8).toNat = 8 * npages.toNat
  roundingUnwrapped : (npages * 8 + 4095).toNat = 8 * npages.toNat + 4095
  rounded : (pasAlloc npages).toNat = (8 * npages.toNat + 4095) / 4096 * 4096

theorem allocation_exact {npages : BitVec 32} (few : npages.toNat < 2 ^ 20) :
    AllocationExact npages := by
  have size : (npages * 8).toNat = 8 * npages.toNat := by
    rw [BitVec.toNat_mul]
    simp only [BitVec.ofNat_eq_ofNat, BitVec.toNat_ofNat]
    omega
  have sum : (npages * 8 + 4095).toNat = 8 * npages.toNat + 4095 := by
    rw [BitVec.toNat_add, size]
    simp only [BitVec.ofNat_eq_ofNat, BitVec.toNat_ofNat]
    omega
  constructor
  · exact size
  · exact sum
  · rw [← sum]
    exact and_not_4095_nat _

/-- What `build_pas_list` leaves in the buffer it was given. -/
structure PagesListed (buffer : DmaBuffer) (baseAddr : BitVec 64) (list : PasList) : Prop where
  some : 1 ≤ list.npages.toNat
  exact : AllocationExact list.npages
  inside : ∀ index < list.npages.toNat, 8 * index + 8 ≤ (pasAlloc list.npages).toNat
  outside : ∀ index, (pasAlloc list.npages).toNat ≤ index → list.pas index = buffer.bytes index
  entries : ∀ index < list.npages.toNat,
    listedPage list index = (baseAddr.toNat + 4096 * index) % 2 ^ 64
  padding : ∀ index, 8 * list.npages.toNat ≤ index → index < (pasAlloc list.npages).toNat →
    list.pas index = 0

theorem build_pas_list_returned {buffer : Option DmaBuffer} {baseAddr : BitVec 64}
    {length : BitVec 32} {heap : Heap} {list : PasList}
    (returned : (buildPasList buffer baseAddr length heap).1 = some list) :
    ∃ allocated, list = newPasList allocated baseAddr length heap.next := by
  cases buffer with
  | none => cases returned
  | some allocated => exact ⟨allocated, (Option.some.inj returned).symm⟩

/-- Every length has its pages listed, wherever the region starts. -/
theorem build_pas_list_lists (buffer : DmaBuffer) (baseAddr : BitVec 64) (length : BitVec 32)
    (heap : Heap) :
    ∃ list, (buildPasList (some buffer) baseAddr length heap).1 = some list ∧
      list.npages = pasNpages length ∧ PagesListed buffer baseAddr list := by
  have few := pas_npages_bounds length
  have exact := allocation_exact few.2
  have alloc := exact.rounded
  have room : 8 * (pasNpages length).toNat ≤ (pasAlloc (pasNpages length)).toNat := by omega
  apply Exists.intro (newPasList buffer baseAddr length heap.next)
  constructor
  · rfl
  constructor
  · rfl
  constructor
  · exact few.1
  · exact exact
  · intro index inside
    exact Nat.le_trans (Nat.mul_le_mul_left 8 (Nat.succ_le_of_lt inside)) room
  · intro index beyond
    have after : (pasAlloc (pasNpages length)).toNat ≤ index := beyond
    have unfilled := fill_pas_outside baseAddr (pasNpages length).toNat
      (copyIn buffer.bytes 0 zeroBytes (pasAlloc (pasNpages length)).toNat) index (by omega)
    exact unfilled.trans (copy_in_outside _ _ _ _ _ (by omega))
  · intro index inside
    have entry := fill_pas_entry baseAddr (pasNpages length).toNat
      (copyIn buffer.bytes 0 zeroBytes (pasAlloc (pasNpages length)).toNat) index inside
    rw [listedPage, newPasList, entry, pas_entry_mod]
  · intro index after before
    have cleared := copy_in_inside buffer.bytes zeroBytes 0 _ index before
    rw [Nat.zero_add] at cleared
    exact (fill_pas_outside baseAddr _ _ index after).trans cleared

theorem listed_page_nat (buffer : DmaBuffer) (baseAddr : BitVec 64) (length : BitVec 32) (md : Nat)
    (index : Nat) (inside : index < (pasNpages length).toNat)
    (bound : baseAddr.toNat + index * 4096 < 2 ^ 64) :
    listedPage (newPasList buffer baseAddr length md) index = baseAddr.toNat + index * 4096 := by
  rw [listedPage, newPasList, fill_pas_entry _ _ _ _ inside, pas_entry_nat _ _ bound]

theorem page_of_address {start length address : Nat} (after : start ≤ address)
    (before : address < start + length) :
    ∃ index < (length + 4095) / 4096,
      start + index * 4096 ≤ address ∧ address < start + index * 4096 + 4096 := by
  refine ⟨(address - start) / 4096, ?_, ?_, ?_⟩
  all_goals omega

/-- For every region the list can count, wherever it starts. -/
theorem describes_region_iff (buffer : Option DmaBuffer) (start : BitVec 64) (length : BitVec 32)
    (heap : Heap) (list : PasList) (low : 1 ≤ length.toNat) (high : length.toNat ≤ 2 ^ 32 - 4096)
    (fits : start.toNat + length.toNat ≤ 2 ^ 64)
    (returned : (buildPasList buffer start length heap).1 = some list) :
    DescribesRegion start.toNat length.toNat list ↔ start.toNat % 4096 = 0 := by
  rcases build_pas_list_returned returned with ⟨allocated, rfl⟩
  have pages : (pasNpages length).toNat = (length.toNat + 4095) / 4096 := by
    rw [pas_npages_nat]
    omega
  have page : ∀ index < (pasNpages length).toNat,
      listedPage (newPasList allocated start length heap.next) index =
        start.toNat + index * 4096 := by
    intro index inside
    apply listed_page_nat allocated start length heap.next index inside
    omega
  constructor
  · intro describes
    have first : 0 < (pasNpages length).toNat := by omega
    have aligned := describes.aligned 0 first
    rwa [page 0 first, Nat.zero_mul, Nat.add_zero] at aligned
  · intro onPage
    constructor
    · intro index inside
      rw [page index inside]
      omega
    · intro address after before
      obtain ⟨index, inside, above, below⟩ := page_of_address after before
      rw [← pages] at inside
      refine ⟨index, inside, ?_, ?_⟩
      · rwa [page index inside]
      · rwa [page index inside]

theorem aligned_region_described :
    DescribesRegion 0x4000 8193 (newPasList sampleBuffer 0x4000 8193 emptyHeap.next) :=
  (describes_region_iff (some sampleBuffer) 0x4000 8193 emptyHeap _ (by decide) (by decide)
    (by decide) rfl).mpr (by decide)

/-- One byte behind a page boundary: the one entry is not the address of a page. -/
theorem unaligned_region_misdescribed :
    ∃ list, (buildPasList (some sampleBuffer) 0x4001 100 emptyHeap).1 = some list ∧
      listedPage list 0 = 0x4001 ∧ ¬DescribesRegion 0x4001 100 list := by
  refine ⟨_, rfl, ?_, ?_⟩
  · exact listed_page_nat sampleBuffer 0x4001 100 emptyHeap.next 0 (by decide) (by decide)
  · intro describes
    have onPage := (describes_region_iff (some sampleBuffer) 0x4001 100 emptyHeap _ (by decide)
      (by decide) (by decide) rfl).mp describes
    exact absurd onPage (by decide)

end Verbifrost.Mlx5PageList
