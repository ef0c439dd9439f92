import AddressPlan.Prefix.Window
import AddressPlan.Proofs.Pieces
import AddressPlan.Proofs.Prefix.AddressSets
/-!
# Windows on a tiling

The blocks of one length inside a prefix tile it: every address of the prefix lies in exactly one of
them. A window shows a part of the tiling, and windows that follow each other show all of it. The
words that a window is computed with are wide enough for the numbers that they stand for.
-/
namespace AddressPlan.Prefix

variable {parent : Prefix} {len : Nat}

/-- A prefix cut into the blocks of one length, from its first address to its last one. -/
structure Tiling (parent : Prefix) (len : Nat) (tiles : List Prefix) : Prop where
  length_eq : ∀ tile ∈ tiles, tile.length = len
  ascending : tiles.Pairwise fun a b => a.first < b.first
  inside : ∀ tile ∈ tiles, parent.contains tile = true
  disjoint : tiles.Pairwise fun a b => Disjoint a.addresses b.addresses
  covers : ∀ a ∈ parent.addresses, tiles.countP (·.containsAddress a) = 1

section Words

def tileCount (parent : Prefix) (len : Nat) : UInt64 :=
  1 <<< UInt64.ofNat (len - parent.length)

def tileStep (len : Nat) : UInt64 :=
  1 <<< UInt64.ofNat (32 - len)

def windowStart (parent : Prefix) (len : Nat) (offset : UInt64) : UInt64 :=
  min offset (parent.tileCount len)

def windowCount (parent : Prefix) (len : Nat) (offset limit : UInt64) : UInt64 :=
  let rest := parent.tileCount len - parent.windowStart len offset
  if limit = 0 then rest else min limit rest

private theorem toNat_tileStep (len : Nat) : (tileStep len).toNat = blockSize len :=
  toNat_one_shiftLeft (by omega)

private theorem toNat_tileCount (parent : Prefix) (h : len ≤ 32) :
    (parent.tileCount len).toNat = 2 ^ (len - parent.length) :=
  toNat_one_shiftLeft (by omega)

private theorem toNat_windowStart (parent : Prefix) (len : Nat) (offset : UInt64) :
    (parent.windowStart len offset).toNat = min offset.toNat (parent.tileCount len).toNat :=
  toNat_min _ _

private theorem toNat_rest (parent : Prefix) (len : Nat) (offset : UInt64) :
    (parent.tileCount len - parent.windowStart len offset).toNat =
      (parent.tileCount len).toNat - (parent.windowStart len offset).toNat := by
  refine UInt64.toNat_sub_of_le _ _ ?_
  rw [UInt64.le_iff_toNat_le, toNat_windowStart]
  exact Nat.min_le_right _ _

private theorem toNat_windowCount (parent : Prefix) (len : Nat) (offset limit : UInt64) :
    (parent.windowCount len offset limit).toNat =
      let rest := (parent.tileCount len).toNat - (parent.windowStart len offset).toNat
      if limit = 0 then rest else min limit.toNat rest := by
  unfold windowCount
  simp only [← toNat_rest]
  split
  · rfl
  · exact toNat_min _ _

private theorem windowEnd_le (parent : Prefix) (len : Nat) (offset limit : UInt64) :
    (parent.windowStart len offset).toNat + (parent.windowCount len offset limit).toNat ≤
      (parent.tileCount len).toNat := by
  have hstart := toNat_windowStart parent len offset
  have hcount := toNat_windowCount parent len offset limit
  dsimp only at hcount
  split at hcount <;> omega

end Words

section Blocks

/-- The words that lead to the `k`-th block are the numbers they stand for: neither the product nor
the sum is too large for its word, and neither narrowing nor masking cuts anything off. -/
structure ChildExact (parent : Prefix) (len : Nat) (h : len ≤ 32) (k : UInt64) : Prop where
  child_eq : parent.child len h k =
    ofAddress (parent.network.toUInt64 + k * tileStep len).toUInt32 len h
  product : (k * tileStep len).toNat = k.toNat * blockSize len
  sum : (parent.network.toUInt64 + k * tileStep len).toNat =
    parent.network.toNat + k.toNat * blockSize len
  narrowed : (parent.network.toUInt64 + k * tileStep len).toUInt32.toNat =
    parent.network.toNat + k.toNat * blockSize len
  masked : (parent.child len h k).network.toNat = parent.network.toNat + k.toNat * blockSize len

private theorem child_end_le (hle : parent.length ≤ len) (h : len ≤ 32) {k : Nat}
    (hk : k < 2 ^ (len - parent.length)) :
    k * blockSize len + blockSize len ≤ blockSize parent.length :=
  calc k * blockSize len + blockSize len = (k + 1) * blockSize len := (Nat.succ_mul ..).symm
    _ ≤ 2 ^ (len - parent.length) * blockSize len := Nat.mul_le_mul_right _ hk
    _ = blockSize parent.length := (blockSize_eq_mul hle h).symm

private theorem blockSize_dvd_tile (hle : parent.length ≤ len) (k : Nat) :
    blockSize len ∣ parent.network.toNat + k * blockSize len :=
  Nat.dvd_add (Nat.dvd_trans (blockSize_dvd hle) (blockSize_dvd_network parent))
    (Nat.dvd_mul_left ..)

private theorem childExact (hle : parent.length ≤ len) (h : len ≤ 32) {k : UInt64}
    (hk : k.toNat < 2 ^ (len - parent.length)) : ChildExact parent len h k := by
  have hend := child_end_le hle h hk
  have hparent := network_add_blockSize_le parent
  have hpos := blockSize_pos len
  have hproduct : (k * tileStep len).toNat = k.toNat * blockSize len := by
    rw [UInt64.toNat_mul, toNat_tileStep, Nat.mod_eq_of_lt (by omega)]
  have hsum : (parent.network.toUInt64 + k * tileStep len).toNat =
      parent.network.toNat + k.toNat * blockSize len := by
    rw [UInt64.toNat_add, hproduct, UInt32.toNat_toUInt64, Nat.mod_eq_of_lt (by omega)]
  have hnarrowed : (parent.network.toUInt64 + k * tileStep len).toUInt32.toNat =
      parent.network.toNat + k.toNat * blockSize len := by
    rw [UInt64.toNat_toUInt32, hsum, Nat.mod_eq_of_lt (by omega)]
  have hdvd := blockSize_dvd_tile hle k.toNat
  have hchild : (parent.child len h k).network.toNat =
      (parent.network.toUInt64 + k * tileStep len).toUInt32.toNat / blockSize len *
        blockSize len :=
    toNat_and_netmask _ h
  exact ⟨rfl, hproduct, hsum, hnarrowed, by rw [hchild, hnarrowed, Nat.div_mul_cancel hdvd]⟩

private theorem containsAddress_iff_eq {tile : Prefix} (htile : tile.length = len) (h : len ≤ 32)
    (a : UInt32) : tile.containsAddress a = true ↔ tile = ofAddress a len h := by
  subst htile
  rw [containsAddress, beq_iff_eq]
  constructor
  · intro hnetwork
    exact eq_of_toNat (congrArg UInt32.toNat hnetwork.symm) rfl
  · intro hblock
    exact (congrArg network hblock).symm

private theorem disjoint_of_first_lt {p q : Prefix} (hlength : p.length = q.length)
    (hlt : p.first < q.first) : Disjoint p.addresses q.addresses := by
  refine Set.disjoint_left.mpr fun a hp hq => ?_
  have hp' := (containsAddress_iff_eq rfl p.length_le a).mp (mem_addresses.mp hp)
  have hq' := (containsAddress_iff_eq hlength.symm p.length_le a).mp (mem_addresses.mp hq)
  rw [hp', ← hq'] at hlt
  exact absurd hlt (UInt32.lt_irrefl _)

end Blocks

section Tiles

/-- The blocks of a length inside a prefix, in ascending order. -/
def tiles (parent : Prefix) (len : Nat) (h : len ≤ 32) : List Prefix :=
  (List.range (2 ^ (len - parent.length))).map fun k => parent.child len h (UInt64.ofNat k)

private theorem length_tiles (parent : Prefix) (h : len ≤ 32) :
    (parent.tiles len h).length = 2 ^ (len - parent.length) := by
  rw [tiles, List.length_map, List.length_range]

variable (hle : parent.length ≤ len) (h : len ≤ 32)
include hle

private theorem toNat_network_child {k : Nat} (hk : k < 2 ^ (len - parent.length)) :
    (parent.child len h (UInt64.ofNat k)).network.toNat =
      parent.network.toNat + k * blockSize len := by
  have hpow : 2 ^ (len - parent.length) ≤ 2 ^ 32 := Nat.pow_le_pow_right (by decide) (by omega)
  have hword : (UInt64.ofNat k).toNat = k :=
    UInt64.toNat_ofNat_of_lt' (Nat.lt_of_lt_of_le hk (Nat.le_trans hpow (by decide)))
  have hexact := (childExact hle h (hword.symm ▸ hk)).masked
  rwa [hword] at hexact

private theorem tiles_ascending : (parent.tiles len h).Pairwise fun a b => a.first < b.first := by
  refine List.pairwise_map.mpr (List.pairwise_lt_range.imp_of_mem fun {i j} hi hj hij => ?_)
  rw [first, first, UInt32.lt_iff_toNat_lt, toNat_network_child hle h (List.mem_range.mp hi),
    toNat_network_child hle h (List.mem_range.mp hj)]
  exact Nat.add_lt_add_left (Nat.mul_lt_mul_of_pos_right hij (blockSize_pos len)) _

private theorem contains_of_mem_tiles {tile : Prefix} (hmem : tile ∈ parent.tiles len h) :
    parent.contains tile = true := by
  obtain ⟨k, hk, rfl⟩ := List.mem_map.mp hmem
  have hnetwork := toNat_network_child hle h (List.mem_range.mp hk)
  have hend := child_end_le hle h (List.mem_range.mp hk)
  have hlength : (parent.child len h (UInt64.ofNat k)).length = len := rfl
  refine contains_iff_le.mpr ⟨hle, ?_, ?_⟩
  · omega
  · rw [hnetwork, hlength]
    omega

private theorem ofAddress_mem_tiles {a : UInt32} (ha : a ∈ parent.addresses) :
    ofAddress a len h ∈ parent.tiles len h := by
  have hpos := blockSize_pos len
  have hfirst : parent.network.toNat ≤ a.toNat := UInt32.le_iff_toNat_le.mp ha.1
  have hlast : a.toNat < parent.network.toNat + 2 ^ (len - parent.length) * blockSize len := by
    have hend := UInt32.le_iff_toNat_le.mp ha.2
    have hparent := blockSize_pos parent.length
    rw [toNat_last] at hend
    rw [← blockSize_eq_mul hle h]
    omega
  -- the address is this many blocks behind the start of the parent
  let k := (a.toNat - parent.network.toNat) / blockSize len
  have hk : k < 2 ^ (len - parent.length) := (Nat.div_lt_iff_lt_mul hpos).mpr (by omega)
  have hle' : k * blockSize len ≤ a.toNat - parent.network.toNat := Nat.div_mul_le_self ..
  have hlt : a.toNat - parent.network.toNat < k * blockSize len + blockSize len :=
    Nat.lt_div_mul_add hpos
  have hdvd := blockSize_dvd_tile hle k
  refine List.mem_map.mpr ⟨k, List.mem_range.mpr hk, eq_of_toNat ?_ rfl⟩
  have hblock : (ofAddress a len h).network.toNat = a.toNat / blockSize len * blockSize len :=
    toNat_and_netmask a h
  rw [toNat_network_child hle h hk, hblock]
  exact ((start_eq_iff hpos hdvd).mpr ⟨by omega, by omega⟩).symm

private theorem tiling_tiles : Tiling parent len (parent.tiles len h) := by
  have hlengths : ∀ tile ∈ parent.tiles len h, tile.length = len := by
    intro tile hmem
    obtain ⟨k, -, rfl⟩ := List.mem_map.mp hmem
    rfl
  have hascending := tiles_ascending hle h
  refine ⟨hlengths, hascending, fun tile => contains_of_mem_tiles hle h, ?_, fun a ha => ?_⟩
  · refine hascending.imp_of_mem fun hp hq hlt => ?_
    exact disjoint_of_first_lt ((hlengths _ hp).trans (hlengths _ hq).symm) hlt
  · -- counting the tiles with an address is counting the block around it
    have hcount : (parent.tiles len h).countP (·.containsAddress a) =
        (parent.tiles len h).count (ofAddress a len h) := by
      refine List.countP_congr fun tile hmem => ?_
      rw [containsAddress_iff_eq (hlengths tile hmem) h a, beq_iff_eq]
    have hnodup : (parent.tiles len h).Nodup :=
      hascending.imp fun hlt heq => absurd (heq ▸ hlt) (UInt32.lt_irrefl _)
    rw [hcount]
    exact List.count_eq_one_of_mem hnodup (ofAddress_mem_tiles hle h ha)

end Tiles

section Windows

structure Shows (tiles : List Prefix) (offset limit : UInt64) (w : Window) : Prop where
  total : w.total.toNat = tiles.length
  blocks :
    let start := min offset.toNat tiles.length
    let rest := tiles.length - start
    w.blocks = (tiles.drop start).take (if limit = 0 then rest else min limit.toNat rest)

/-- A window is computed with words that are the numbers they stand for. -/
structure WindowExact (parent : Prefix) (len : Nat) (h : len ≤ 32) (offset limit : UInt64)
    (w : Window) : Prop where
  total_eq : w.total = parent.tileCount len
  blocks_eq : w.blocks = (List.range (parent.windowCount len offset limit).toNat).map fun i =>
    parent.child len h (parent.windowStart len offset + UInt64.ofNat i)
  count : (parent.tileCount len).toNat = 2 ^ (len - parent.length)
  step : (tileStep len).toNat = 2 ^ (32 - len)
  start_le : parent.windowStart len offset ≤ parent.tileCount len
  stop : (parent.windowStart len offset + parent.windowCount len offset limit).toNat =
    (parent.windowStart len offset).toNat + (parent.windowCount len offset limit).toNat
  place : ∀ i < (parent.windowCount len offset limit).toNat,
    (parent.windowStart len offset + UInt64.ofNat i).toNat =
      (parent.windowStart len offset).toNat + i
  block : ∀ i < (parent.windowCount len offset limit).toNat,
    ChildExact parent len h (parent.windowStart len offset + UInt64.ofNat i)

private theorem map_child_eq_slice (h : len ≤ 32) (start count : UInt64)
    (hend : start.toNat + count.toNat ≤ 2 ^ (len - parent.length)) :
    ((List.range count.toNat).map fun k => parent.child len h (start + UInt64.ofNat k)) =
      ((parent.tiles len h).drop start.toNat).take count.toNat := by
  refine List.ext_getElem ?_ fun i hi hi' => ?_
  · rw [List.length_map, List.length_range, List.length_take, List.length_drop, length_tiles]
    omega
  · simp only [tiles, List.getElem_map, List.getElem_range, List.getElem_take, List.getElem_drop]
    rw [UInt64.ofNat_add, UInt64.ofNat_toNat]

private theorem exists_usableHosts (h : len ≤ 32) : ∃ hosts, usableHosts len = .ok hosts := by
  unfold usableHosts
  split
  · exact ⟨_, rfl⟩
  · split
    · exact ⟨_, rfl⟩
    · rw [if_pos (by omega)]
      exact ⟨_, rfl⟩

private theorem exists_window_eq (hle : parent.length ≤ len) (h : len ≤ 32)
    (offset limit : UInt64) :
    ∃ w, parent.window len offset limit = .ok w ∧ w.total = parent.tileCount len ∧
      w.blocks = (List.range (parent.windowCount len offset limit).toNat).map fun i =>
        parent.child len h (parent.windowStart len offset + UInt64.ofNat i) := by
  obtain ⟨hosts, hhosts⟩ := exists_usableHosts h
  rw [window, dif_pos h, if_neg (Nat.not_lt.mpr hle), hhosts]
  exact ⟨_, rfl, rfl, rfl⟩

private theorem window_eq_error_iff (parent : Prefix) (len : Nat) (offset limit : UInt64) :
    (∃ cause, parent.window len offset limit = .error cause) ↔
      32 < len ∨ len < parent.length := by
  constructor
  · rintro ⟨cause, herror⟩
    by_contra hfits
    obtain ⟨w, hok, -⟩ : ∃ w, parent.window len offset limit = .ok w ∧ _ :=
      exists_window_eq (by omega) (by omega) offset limit
    cases herror.symm.trans hok
  · intro hlength
    rw [window]
    by_cases h : len ≤ 32
    · rw [dif_pos h, if_pos (by omega)]
      exact ⟨_, rfl⟩
    · rw [dif_neg h]
      exact ⟨_, rfl⟩

private theorem exists_windowExact (hle : parent.length ≤ len) (h : len ≤ 32)
    (offset limit : UInt64) :
    ∃ w, parent.window len offset limit = .ok w ∧ WindowExact parent len h offset limit w := by
  obtain ⟨w, hwindow, htotal, hblocks⟩ := exists_window_eq hle h offset limit
  have hcount := toNat_tileCount parent h
  have hpow : 2 ^ (len - parent.length) ≤ 2 ^ 32 := Nat.pow_le_pow_right (by decide) (by omega)
  have hend := windowEnd_le parent len offset limit
  have hplace : ∀ i < (parent.windowCount len offset limit).toNat,
      (parent.windowStart len offset + UInt64.ofNat i).toNat =
        (parent.windowStart len offset).toNat + i := by
    intro i hi
    rw [UInt64.toNat_add, UInt64.toNat_ofNat_of_lt' (Nat.lt_trans hi (UInt64.toNat_lt _)),
      Nat.mod_eq_of_lt (by omega)]
  refine ⟨w, hwindow, htotal, hblocks, hcount, toNat_tileStep len, ?_, ?_, hplace, fun i hi => ?_⟩
  · rw [UInt64.le_iff_toNat_le, toNat_windowStart]
    exact Nat.min_le_right ..
  · rw [UInt64.toNat_add, Nat.mod_eq_of_lt (by omega)]
  · refine childExact hle h ?_
    rw [hplace i hi]
    omega

private theorem WindowExact.shows {h : len ≤ 32} {offset limit : UInt64} {w : Window}
    (hexact : WindowExact parent len h offset limit w) :
    Shows (parent.tiles len h) offset limit w := by
  have htotal : (parent.tileCount len).toNat = (parent.tiles len h).length := by
    rw [hexact.count, length_tiles]
  refine ⟨hexact.total_eq ▸ htotal, ?_⟩
  have hend := windowEnd_le parent len offset limit
  rw [hexact.count] at hend
  dsimp only
  rw [hexact.blocks_eq, map_child_eq_slice h _ _ hend, toNat_windowCount, toNat_windowStart,
    htotal]

end Windows

section Pages

private theorem Shows.blocks_of_pos {tiles : List Prefix} {offset limit : UInt64} {w : Window}
    (h : Shows tiles offset limit w) (hlimit : limit ≠ 0) :
    w.blocks = (tiles.drop offset.toNat).take limit.toNat := by
  have hblocks := h.blocks
  simp only [if_neg hlimit] at hblocks
  have hdrop : tiles.drop (min offset.toNat tiles.length) = tiles.drop offset.toNat :=
    List.drop_eq_drop_iff.mpr (by omega)
  rw [hblocks, hdrop, List.take_eq_take_iff, List.length_drop]
  omega

end Pages

/-- A window of a length that fits shows the part of the tiling that was asked for, and the windows
of a limit that follow each other show the tiling. -/
theorem window_tiles (parent : Prefix) (len : Nat) :
    (∀ offset limit, (∃ cause, parent.window len offset limit = .error cause) ↔
      32 < len ∨ len < parent.length) ∧
    ∀ h : len ≤ 32, parent.length ≤ len →
      ∃ (tiles : List Prefix) (shown : UInt64 → UInt64 → Window),
        Tiling parent len tiles ∧ tiles.length = 2 ^ (len - parent.length) ∧
        (∀ offset limit, parent.window len offset limit = .ok (shown offset limit) ∧
          Shows tiles offset limit (shown offset limit) ∧
          WindowExact parent len h offset limit (shown offset limit)) ∧
        ∀ limit, limit ≠ 0 →
          ((List.range (tiles.length ⌈/⌉ limit.toNat)).flatMap fun i =>
            (shown (UInt64.ofNat (i * limit.toNat)) limit).blocks) = tiles ∧
          ∀ offset, tiles.length ≤ offset.toNat → (shown offset limit).blocks = [] := by
  refine ⟨window_eq_error_iff parent len, fun h hle => ?_⟩
  choose shown hwindow hexact using exists_windowExact hle h
  have hshows : ∀ offset limit, Shows (parent.tiles len h) offset limit (shown offset limit) :=
    fun offset limit => (hexact offset limit).shows
  refine ⟨parent.tiles len h, shown, tiling_tiles hle h, length_tiles parent h,
    fun offset limit => ⟨hwindow offset limit, hshows offset limit, hexact offset limit⟩,
    fun limit hlimit => ⟨?_, fun offset hoffset => ?_⟩⟩
  · have hpos : 0 < limit.toNat :=
      Nat.pos_of_ne_zero fun hzero => hlimit (UInt64.toNat_inj.mp hzero)
    have hpow : 2 ^ (len - parent.length) ≤ 2 ^ 32 := Nat.pow_le_pow_right (by decide) (by omega)
    have hpieces : ∀ i ∈ List.range ((parent.tiles len h).length ⌈/⌉ limit.toNat),
        (shown (UInt64.ofNat (i * limit.toNat)) limit).blocks =
          ((parent.tiles len h).drop (i * limit.toNat)).take limit.toNat := by
      intro i hi
      -- a window that is needed starts before the end, so its offset is a word
      have hstart : i * limit.toNat < (parent.tiles len h).length := by
        by_contra hpast
        have hcovered := (ceilDiv_le_iff_le_mul hpos).mpr
          (Nat.mul_comm i _ ▸ Nat.le_of_not_lt hpast)
        exact Nat.not_lt_of_le hcovered (List.mem_range.mp hi)
      rw [(hshows _ limit).blocks_of_pos hlimit, UInt64.toNat_ofNat_of_lt' ?_]
      rw [length_tiles] at hstart
      exact Nat.lt_of_lt_of_le hstart (Nat.le_trans hpow (by decide))
    rw [List.flatMap_congr hpieces, flatMap_pieces]
    exact List.take_of_length_le (by rw [Nat.mul_comm]; exact le_smul_ceilDiv hpos)
  · rw [(hshows offset limit).blocks_of_pos hlimit, List.drop_of_length_le hoffset, List.take_nil]

/-- The last addresses of the whole space, asked for with a limit that no word exceeds. -/
theorem window_tiles_last :
    let whole : Prefix := ofAddress 0 0 (by decide)
    ∃ (tiles : List Prefix) (w : Window), Tiling whole 32 tiles ∧ tiles.length = 2 ^ 32 ∧
      whole.window 32 0xFFFFFFFE 0xFFFFFFFFFFFFFFFF = .ok w ∧
      Shows tiles 0xFFFFFFFE 0xFFFFFFFFFFFFFFFF w ∧
      w.blocks = [host 0xFFFFFFFE, host 0xFFFFFFFF] := by
  intro whole
  obtain ⟨tiles, shown, htiling, hlength, hshown, -⟩ :=
    (window_tiles whole 32).2 (by decide) (by decide)
  obtain ⟨hwindow, hshows, -⟩ := hshown 0xFFFFFFFE 0xFFFFFFFFFFFFFFFF
  have hblocks : (whole.window 32 0xFFFFFFFE 0xFFFFFFFFFFFFFFFF).map Window.blocks =
      .ok [host 0xFFFFFFFE, host 0xFFFFFFFF] := by
    decide
  rw [hwindow] at hblocks
  exact ⟨tiles, _, htiling, hlength, hwindow, hshows, Except.ok.inj hblocks⟩

end AddressPlan.Prefix
