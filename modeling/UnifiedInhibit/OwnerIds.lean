import UnifiedInhibit.OwnerTracking

/-!
# What an id says about its owner

`mkId` of both classes clips a sender to the size of the array and then terminates it, so that the
terminator of a sender of 1024 bytes or more stands behind the array, in the cookie. Ids are
compared with their padding.
-/

namespace UnifiedInhibit

namespace OwnerId

/-! ## The writes of `mkId` -/

/-- `idStruct` as it is initialised. -/
def idStruct (cfg : OwnerConfig) (cookie : UInt32) : Bytes :=
  CStruct.leBytes 8 cfg.instanceId.toNat ++ List.replicate senderSize 0 ++
    (CStruct.leBytes 4 cookie.toNat ++ cfg.padding)

/-- What is written through `idStruct.sender`, with the offsets in the structure: `strncpy` and
the terminator. -/
def senderWrites (sender : Bytes) : List (ℕ × UInt8) :=
  let size := if sender.length > senderSize then senderSize else sender.length
  CStruct.writes 8 (CStruct.strncpy size sender) ++ if size > 0 then [(8 + size, 0)] else []

lemma mkId_eq_applyWrites (cfg : OwnerConfig) (sender : Bytes) (cookie : UInt32) :
    mkId cfg sender cookie =
      CStruct.applyWrites (idStruct cfg cookie) (senderWrites sender) := by
  unfold mkId senderWrites
  dsimp only
  set size := if sender.length > senderSize then senderSize else sender.length with hsize
  have hle : size ≤ senderSize := by
    rw [hsize]
    split <;> omega
  have hroom : 8 + (CStruct.strncpy size sender).length ≤ (idStruct cfg cookie).length := by
    unfold idStruct
    rw [CStruct.length_strncpy, List.length_append, List.length_append, CStruct.length_leBytes,
      List.length_replicate]
    omega
  -- `strncpy` is a block of writes, and the terminator one more
  have hcopy := CStruct.applyWrites_writes hroom
  unfold CStruct.applyWrites at hcopy ⊢
  rw [List.foldl_append, hcopy]
  by_cases hpos : size > 0
  · rw [if_pos hpos, if_pos hpos]
    rfl
  · rw [if_neg hpos, if_neg hpos]
    rfl

/-- The writes stay inside the array exactly when there is room for the terminator. -/
lemma senderWrites_inside {s : Bytes} :
    (∀ w ∈ senderWrites s, 8 ≤ w.1 ∧ w.1 < 8 + senderSize) ↔ s.length < senderSize := by
  constructor
  · intro h
    by_contra hlong
    have hsize : (if s.length > senderSize then senderSize else s.length) = senderSize := by
      split <;> omega
    -- the terminator of a clipped sender
    have hmem : (8 + senderSize, 0) ∈ senderWrites s := by
      unfold senderWrites
      rw [hsize]
      dsimp only
      rw [if_pos (show senderSize > 0 by decide)]
      exact List.mem_append_right _ (List.mem_singleton.mpr rfl)
    exact absurd (h _ hmem).2 (lt_irrefl _)
  · intro hlt w hw
    have hsize : (if s.length > senderSize then senderSize else s.length) = s.length :=
      if_neg (by omega)
    unfold senderWrites at hw
    rw [hsize] at hw
    rcases List.mem_append.mp hw with hcopy | hterm
    · have := CStruct.mem_writes hcopy
      rw [CStruct.length_strncpy] at this
      omega
    · split at hterm
      · obtain rfl := List.mem_singleton.mp hterm
        dsimp only
        omega
      · cases hterm

/-! ## Reading back -/

lemma instanceID_mkId (cfg : OwnerConfig) {s : Bytes} (hs : Fits s) (c : UInt32) :
    instanceID (mkId cfg s c) = cfg.instanceId := by
  have hlt := cfg.instanceId.toNat_lt
  unfold instanceID
  rw [mkId_eq cfg hs, List.append_assoc, List.take_left' (CStruct.length_leBytes 8 _),
    CStruct.leValue_leBytes, Nat.mod_eq_of_lt (by omega)]
  exact UInt64.ofNat_toNat

lemma terminated_mkId (cfg : OwnerConfig) {s : Bytes} (hs : Fits s) (c : UInt32) :
    0 ∈ ((mkId cfg s c).drop 8).take senderSize := by
  have hlt := hs.length
  rw [mkId_eq cfg hs, List.append_assoc, List.drop_left' (CStruct.length_leBytes 8 _),
    List.take_left' (length_sender hs)]
  apply List.mem_append_right
  exact List.mem_replicate.mpr ⟨by omega, rfl⟩

lemma length_clipped (cfg : OwnerConfig) {s : Bytes} (hlong : senderSize ≤ s.length) :
    (CStruct.leBytes 8 cfg.instanceId.toNat ++ s.take senderSize).length = 8 + senderSize := by
  rw [List.length_append, List.length_take_of_le hlong, CStruct.length_leBytes]

/-- The id of a sender that does not fit: the terminator clears a byte of the cookie. -/
lemma mkId_clipped (cfg : OwnerConfig) {s : Bytes} (hs : 0 ∉ s) (hlong : senderSize ≤ s.length)
    (c : UInt32) :
    mkId cfg s c = CStruct.leBytes 8 cfg.instanceId.toNat ++ s.take senderSize ++
      (0 :: CStruct.leBytes 3 (c.toNat / 256) ++ cfg.padding) := by
  have hsize : (if s.length > senderSize then senderSize else s.length) = senderSize := by
    split <;> omega
  have hfront : 8 = (CStruct.leBytes 8 cfg.instanceId.toNat).length := by
    rw [CStruct.length_leBytes]
  have hlen : (s.take senderSize).length = senderSize := List.length_take_of_le hlong
  unfold mkId
  dsimp only
  rw [hsize, if_pos (by decide), CStruct.strncpy_clipped hs hlong,
    CStruct.overwrite_field hfront (by rw [hlen, List.length_replicate]), hlen,
    List.drop_replicate, Nat.sub_self, List.replicate_zero, List.append_nil,
    ← length_clipped cfg hlong, List.set_append_right _ _ (le_refl _), Nat.sub_self]
  rfl

/-- The cookie of such an id has lost its lowest byte. -/
lemma cookie_clipped (cfg : OwnerConfig) {s : Bytes} (hs : 0 ∉ s) (hlong : senderSize ≤ s.length)
    (c : UInt32) : (cookie (mkId cfg s c)).toNat = c.toNat / 256 * 256 := by
  have hc := c.toNat_lt
  unfold cookie
  rw [mkId_clipped cfg hs hlong, List.drop_left' (length_clipped cfg hlong),
    List.take_left' (show (0 :: CStruct.leBytes 3 (c.toNat / 256)).length = 4 by simp)]
  -- the lowest byte is 0, and the other three are those of the cookie
  show (Nat.toUInt32 (0 + 256 * CStruct.leValue (CStruct.leBytes 3 (c.toNat / 256)))).toNat = _
  rw [CStruct.leValue_leBytes, Nat.mod_eq_of_lt (by omega)]
  show (0 + 256 * (c.toNat / 256)) % 2 ^ 32 = _
  omega

/-- The sender of such an id is one byte too long. -/
lemma sender_clipped (cfg : OwnerConfig) {s : Bytes} (hs : 0 ∉ s) (hlong : senderSize ≤ s.length)
    (c : UInt32) : sender (mkId cfg s c) = s.take senderSize := by
  have hnotMem : 0 ∉ s.take senderSize := fun h => hs (List.mem_of_mem_take h)
  unfold sender
  rw [mkId_clipped cfg hs hlong, List.append_assoc,
    List.drop_left' (CStruct.length_leBytes 8 _), List.cons_append]
  exact CStruct.cstr_append_zero hnotMem _

end OwnerId

/-! ## Ids of the two classes -/

namespace OwnerKind

/-- The id is built inside its fields, and they are read back from it. -/
structure Encodes (K : OwnerKind) (s : Bytes) (c : UInt32) : Prop where
  inside : ∀ w ∈ OwnerId.senderWrites s, 8 ≤ w.1 ∧ w.1 < 8 + OwnerId.senderSize
  instanceID : OwnerId.instanceID (K.mkId s c) = K.config.instanceId
  terminated : 0 ∈ ((K.mkId s c).drop 8).take OwnerId.senderSize
  sender : OwnerId.sender (K.mkId s c) = s.take 1023
  cookie : OwnerId.cookie (K.mkId s c) = c

lemma encodes_iff (K : OwnerKind) {s : Bytes} (hs : 0 ∉ s) (c : UInt32) :
    K.Encodes s c ↔ s.length ≤ 1023 := by
  constructor
  · intro h
    exact Nat.le_of_lt_succ (OwnerId.senderWrites_inside.mp h.inside)
  · intro hlen
    have hfits : Fits s := ⟨Nat.lt_succ_of_le hlen, hs⟩
    exact {
      inside := OwnerId.senderWrites_inside.mpr hfits.length
      instanceID := OwnerId.instanceID_mkId K.config hfits c
      terminated := OwnerId.terminated_mkId K.config hfits c
      sender := (OwnerId.sender_mkId K.config hfits c).trans (List.take_of_length_le hlen).symm
      cookie := OwnerId.cookie_mkId K.config hfits c }

/-- An id encodes its owner exactly when the sender leaves room for its terminator. Two ids of one
instance, built on structures `K` and `L` that may differ in their padding, are compared by sender
and cookie exactly when equal senders and cookies meet equal padding. -/
theorem ids_encode_iff (K L : OwnerKind) (hid : K.config.instanceId = L.config.instanceId)
    {s t : Bytes} (hs : 0 ∉ s) (ht : 0 ∉ t) (c d : UInt32) :
    (K.Encodes s c ↔ s.length ≤ 1023) ∧
    (s.length ≤ 1023 → t.length ≤ 1023 →
      ((K.mkId s c = L.mkId t d ↔ s = t ∧ c = d) ↔
        (s = t ∧ c = d → K.config.padding = L.config.padding))) := by
  refine ⟨encodes_iff K hs c, fun hslen htlen => ?_⟩
  have hiff : K.mkId s c = L.mkId t d ↔ s = t ∧ c = d ∧ K.config.padding = L.config.padding :=
    OwnerId.mkId_eq_mkId_iff hid ⟨Nat.lt_succ_of_le hslen, hs⟩ ⟨Nat.lt_succ_of_le htlen, ht⟩
  rw [hiff]
  tauto

/-- A sender of 1024 bytes with cookie 1, and two ids that differ in their padding only. -/
lemma not_encodes_full (K L : OwnerKind) (hpad : K.config.padding ≠ L.config.padding)
    (hid : K.config.instanceId = L.config.instanceId) :
    let s : Bytes := List.replicate 1024 97
    ¬ K.Encodes s 1 ∧ OwnerId.sender (K.mkId s 1) = s ∧ OwnerId.cookie (K.mkId s 1) = 0 ∧
      K.mkId (lit ":1.1") 1 ≠ L.mkId (lit ":1.1") 1 := by
  intro s
  have hs : 0 ∉ s := fun h => absurd (List.eq_of_mem_replicate h) (by decide)
  have hlen : s.length = OwnerId.senderSize := List.length_replicate
  refine ⟨fun h => ?_, ?_, ?_, fun h => ?_⟩
  · have hle : s.length ≤ 1023 := (encodes_iff K hs 1).mp h
    rw [hlen] at hle
    exact absurd hle (by decide)
  · exact (OwnerId.sender_clipped K.config hs hlen.ge 1).trans (List.take_of_length_le hlen.le)
  · exact UInt32.toNat_inj.mp (OwnerId.cookie_clipped K.config hs hlen.ge 1)
  · have hfits := clientName_one.fits
    exact hpad ((OwnerId.mkId_eq_mkId_iff hid hfits hfits).mp h).2.2

/-- At both classes the terminator of a full array clears the cookie, and the padding tells equal
ids apart. -/
theorem ids_encode_fails :
    let other : OwnerConfig := { exampleConfig with padding := [1, 0, 0, 0] }
    let otherScreenSaver : OwnerKind :=
      .simpleDBus (FreedesktopScreenSaverInhibitInterface other)
    let s : Bytes := List.replicate 1024 97
    (¬ exampleScreenSaver.Encodes s 1 ∧ OwnerId.sender (exampleScreenSaver.mkId s 1) = s ∧
      OwnerId.cookie (exampleScreenSaver.mkId s 1) = 0 ∧
      exampleScreenSaver.mkId (lit ":1.1") 1 ≠ otherScreenSaver.mkId (lit ":1.1") 1) ∧
    (¬ exampleSessionManager.Encodes s 1 ∧ OwnerId.sender (exampleSessionManager.mkId s 1) = s ∧
      OwnerId.cookie (exampleSessionManager.mkId s 1) = 0 ∧
      exampleSessionManager.mkId (lit ":1.1") 1 ≠
        (OwnerKind.gnomeSessionManager other).mkId (lit ":1.1") 1) :=
  ⟨not_encodes_full _ _ (by decide) rfl, not_encodes_full _ _ (by decide) rfl⟩

/-- The ids of two clients with the same cookie. -/
theorem ids_encode_two :
    exampleScreenSaver.Encodes (lit ":1.1") 1 ∧
      exampleScreenSaver.mkId (lit ":1.1") 1 ≠ exampleScreenSaver.mkId (lit ":1.2") 1 := by
  obtain ⟨hencodes, hequal⟩ := ids_encode_iff exampleScreenSaver exampleScreenSaver rfl
    clientName_one.notMem clientName_two.notMem 1 1
  refine ⟨hencodes.mpr (by decide), fun h => ?_⟩
  have hsenders := (((hequal (by decide) (by decide)).mpr fun _ => rfl).mp h).1
  exact absurd hsenders (by decide)

end OwnerKind

end UnifiedInhibit
