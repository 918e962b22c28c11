import Udapcfg.Udap.GetData

/-!
# The device's side of the wire

`mocksbr/wire.rs`: the rendering of a raw value, written separately from the client's, and the
parser of `set_data` requests.
-/

namespace Mocksbr

open Infra Udap

/-- `decode_param_value`. -/
def decodeParamValue (value : Bytes) : Bytes :=
  match value with
  | [a] => decimal a.toNat
  | [a, b] => decimal (u16FromBe a b).toNat
  | [a, b, c, d] => Ipv4Addr.format ⟨a, b, c, d⟩
  | _ => value.takeWhile (· ≠ 0)

/-- Both sides render alike. -/
theorem decodeParamValue_eq_formatValue (value : Bytes) :
    decodeParamValue value = GetData.formatValue value := by
  match value with
  | [] | [_] | [_, _] | [_, _, _] | [_, _, _, _] | _ :: _ :: _ :: _ :: _ :: _ => rfl

/-- `SetDataItem`. The name is `none` when the table does not know the offset. -/
structure SetDataItem where
  value : Bytes
  name : Option String
deriving DecidableEq

/-- `CREDENTIAL_FIELDS`. -/
def credentialFields : Nat := 32

/-- The loop of `parse_set_data_request`: `n` items to go, the next one at `pos`. -/
def setDataLoop (payload : Bytes) : Nat → Nat → List SetDataItem
  | 0, _ => []
  | n + 1, pos =>
    if payload.length < pos + 4 then []
    else
      let offset := u16At payload pos
      let length := u16At payload (pos + 2)
      if payload.length < pos + 4 + length.toNat then []
      else
        ⟨slice payload (pos + 4) length.toNat, (byOffset offset).map Parameter.name⟩ ::
          setDataLoop payload n (pos + 4 + length.toNat)

/-- `parse_set_data_request`. A truncated item ends the walk and keeps what was read. -/
def parseSetDataRequest (payload : Bytes) : List SetDataItem :=
  if payload.length < credentialFields + 2 then []
  else setDataLoop payload (u16At payload credentialFields).toNat (credentialFields + 2)

/-- What the parser keeps of an item. -/
def toSetDataItem (it : Item) : SetDataItem := ⟨it.2, (byOffset it.1).map Parameter.name⟩

theorem setDataLoop_eq (payload : Bytes) : ∀ (n pos : Nat),
    setDataLoop payload n pos = (takeItems n (payload.drop pos)).map toSetDataItem
  | 0, _ => rfl
  | n + 1, pos => by
    rw [setDataLoop, takeItems, takeItem_drop]
    by_cases h4 : payload.length < pos + 4
    · simp [h4]
    · by_cases hlen : payload.length < pos + 4 + (u16At payload (pos + 2)).toNat
      · simp [h4, hlen]
      · simp only [if_neg h4, if_neg hlen, List.map_cons, setDataLoop_eq payload n]
        rfl

/-- **A well-formed request is parsed into its items**, whatever the credentials. -/
theorem parseSetDataRequest_encodeItems {cred : Bytes} (hcred : cred.length = credentialFields)
    {items : List Item} (hcount : items.length < 65536)
    (hfit : ∀ it ∈ items, it.2.length < 65536) (tail : Bytes) :
    parseSetDataRequest (cred ++ (u16ToBe (u16OrMax items.length) ++ (encodeItems items ++ tail)))
      = items.map toSetDataItem := by
  have hd : (cred ++ (u16ToBe (u16OrMax items.length) ++ (encodeItems items ++ tail))).drop
      credentialFields = u16ToBe (u16OrMax items.length) ++ (encodeItems items ++ tail) := by
    rw [← hcred]
    exact List.drop_left
  have hd2 : (cred ++ (u16ToBe (u16OrMax items.length) ++ (encodeItems items ++ tail))).drop
      (credentialFields + 2) = encodeItems items ++ tail := by
    rw [← List.drop_drop, hd]
    rfl
  have hcnt : u16At (cred ++ (u16ToBe (u16OrMax items.length) ++ (encodeItems items ++ tail)))
      credentialFields = u16OrMax items.length := (u16At_eq hd).trans (u16FromBe_toBe _)
  rw [parseSetDataRequest, if_neg, hcnt, setDataLoop_eq, hd2, toNat_u16OrMax hcount,
    takeItems_encodeItems hfit _ (Nat.le_refl _), List.take_length]
  simp only [List.length_append, hcred, length_u16ToBe]
  omega

end Mocksbr
