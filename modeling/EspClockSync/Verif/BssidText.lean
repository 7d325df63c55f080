import EspClockSync.Rig.Bssid

/-!
# The text of a BSSID

The firmware reads its access point from text once, at boot: a text it refuses leaves the
board free to associate with any. Exactly the texts of six bytes between colons are read,
and every BSSID that a client logs is one of them.
-/

namespace EspClockSync

open Machine

namespace Rig

/-- Reading each of several values is reading them all. -/
theorem mapM_eq_some_iff {α β : Type} {read : α → Option β} {texts : List α} {values : List β} :
    texts.mapM read = some values ↔
      List.Forall₂ (fun text value => read text = some value) texts values := by
  induction texts generalizing values with
  | nil => simp [eq_comm]
  | cons text texts ih =>
    rw [List.mapM_cons]
    constructor
    · intro done
      obtain ⟨value, first, done⟩ := Option.bind_eq_some_iff.mp done
      obtain ⟨rest, others, done⟩ := Option.bind_eq_some_iff.mp done
      rw [← Option.some.inj done]
      exact .cons first (ih.mp others)
    · intro each
      cases each with
      | cons first others =>
        rw [first, Option.bind_eq_bind, Option.bind_some, ih.mpr others]
        rfl

/-- The loop reads all parts and stores each byte at its place. -/
theorem foldlM_storeByte (parts : List (List Char)) (first : Nat) (out : Bssid) :
    (parts.zipIdx first).foldlM storeByte out =
      (parts.mapM (parseHex 8)).map fun bytes =>
        (bytes.zipIdx first).foldl (fun out byte => out.setIfInBounds byte.2 byte.1) out := by
  induction parts generalizing first out with
  | nil => rfl
  | cons part parts ih =>
    rw [List.zipIdx_cons, List.foldlM_cons, List.mapM_cons]
    unfold storeByte
    cases parseHex 8 part with
    | none => rfl
    | some byte =>
      rw [Option.bind_eq_bind, Option.bind_eq_bind, Option.bind_some, Option.bind_some]
      have rest := ih (first + 1) (out.setIfInBounds first byte)
      unfold storeByte at rest
      refine rest.trans ?_
      cases parts.mapM (parseHex 8) with
      | none => rfl
      | some bytes => rfl

/-- Six bytes stored at their places are the BSSID. -/
theorem toList_foldl_store {bytes : List U8} (six : bytes.length = 6) :
    (bytes.zipIdx.foldl (fun (out : Bssid) byte => out.setIfInBounds byte.2 byte.1)
      (Vector.replicate 6 0)).toList = bytes := by
  match bytes, six with
  | [_, _, _, _, _, _], _ => rfl

/-- Parts that are read are read as the bytes of the BSSID, in order. -/
theorem parseBssid_parts (parts : List (List Char)) (bssid : Bssid) :
    (if parts.length ≠ 6 then none
      else parts.zipIdx.foldlM storeByte (Vector.replicate 6 0)) = some bssid ↔
      List.Forall₂ SpellsHex parts bssid.toList := by
  have spells : List.Forall₂ SpellsHex parts bssid.toList ↔
      parts.mapM (parseHex 8) = some bssid.toList := by
    rw [mapM_eq_some_iff]
    simp only [parseHex_eq_some_iff]
  rw [spells, foldlM_storeByte]
  constructor
  · intro read
    split at read
    · contradiction
    · rename_i six
      obtain ⟨bytes, parsed, stored⟩ := Option.map_eq_some_iff.mp read
      have length := (mapM_eq_some_iff.mp parsed).length_eq
      rw [parsed, ← stored, toList_foldl_store (by omega)]
  · intro parsed
    have length := (mapM_eq_some_iff.mp parsed).length_eq
    rw [Vector.length_toList] at length
    rw [if_neg (by omega), parsed, Option.map_some]
    exact congrArg some (Vector.toList_inj.mp (toList_foldl_store Vector.length_toList))

/-- **What is read is a BSSID.** A text is read as a BSSID exactly when it is six spellings of
its bytes in base sixteen, of either case and with or without a plus sign, between colons; and
what a client logs of a BSSID is read as that BSSID. -/
theorem parse_bssid_exact (bssid : Bssid) :
    (∀ text, parseBssid text = some bssid ↔ ∃ parts, text = [':'].intercalate parts ∧
      List.Forall₂ SpellsHex parts bssid.toList) ∧
    parseBssid (bssidText bssid) = some bssid := by
  have read : ∀ text, parseBssid text = some bssid ↔ ∃ parts, text = [':'].intercalate parts ∧
      List.Forall₂ SpellsHex parts bssid.toList := by
    intro text
    unfold parseBssid
    dsimp only
    rw [parseBssid_parts]
    constructor
    · intro spelled
      exact ⟨text.splitOn ':', (List.intercalate_splitOn ':').symm, spelled⟩
    · rintro ⟨parts, rfl, spelled⟩
      have nonempty : parts ≠ [] := by
        rintro rfl
        have length := spelled.length_eq
        rw [Vector.length_toList] at length
        contradiction
      have clean : ∀ part ∈ parts, ':' ∉ part := by
        intro part member
        obtain ⟨i, inside, rfl⟩ := List.mem_iff_getElem.mp member
        have each := List.Forall₂.get spelled inside (by rwa [← spelled.length_eq])
        exact each.not_mem (by decide) (by decide)
      rwa [List.splitOn_intercalate ':' clean nonempty]
  refine ⟨read, (read _).mpr ⟨_, rfl, ?_⟩⟩
  rw [List.forall₂_map_left_iff, List.forall₂_same]
  exact fun byte _ => spellsHex_hexByte byte

end Rig

end EspClockSync
