import WifiRoster.Format.Values

/-!
# Profile files

Saved profiles are written as a list of records. Only the network name is needed in a record; its
protocol is not written but follows from the key management schemes.
-/

namespace WifiRoster

open Json (Fault Reader RecordForm required)

/-- A saved profile as it is written. -/
structure ProfileRecord where
  name : String
  keyManagement : List KeyManagement
  wepKey : Bool
  autoJoin : Bool
  metering : Metering
  credential : Option String
deriving DecidableEq, Repr

/-- A profile record whose members are being read. -/
structure ProfileDraft where
  name : Option String
  keyManagement : Option (List KeyManagement)
  wepKey : Option Bool
  autoJoin : Option Bool
  metering : Option Metering
  credential : Option (Option String)

namespace ProfileRecord

/-- How a profile record is written. -/
def form : RecordForm ProfileDraft ProfileRecord where
  wanted := "struct ProfileRecord"
  blank := ⟨none, none, none, none, none, none⟩
  members := [
    { name := "ssid"
      optional := false
      isSet := (·.name.isSome)
      read := fun draft => return { draft with name := some (← Reader.string) } },
    { name := "key_management"
      optional := true
      isSet := (·.keyManagement.isSome)
      read := fun draft =>
        return { draft with keyManagement := some (← Reader.list KeyManagement.read) } },
    { name := "wep_key"
      optional := true
      isSet := (·.wepKey.isSome)
      read := fun draft => return { draft with wepKey := some (← Reader.boolean) } },
    { name := "auto_join"
      optional := true
      isSet := (·.autoJoin.isSome)
      read := fun draft => return { draft with autoJoin := some (← Reader.boolean) } },
    { name := "metered"
      optional := true
      isSet := (·.metering.isSome)
      read := fun draft => return { draft with metering := some (← Metering.read) } },
    { name := "credential_ref"
      optional := true
      isSet := (·.credential.isSome)
      read := fun draft =>
        return { draft with credential := some (← Reader.optional Reader.string) } }]
  finish draft := do
    let name ← required "ssid" draft.name
    return {
      name := name
      keyManagement := draft.keyManagement.getD []
      wepKey := draft.wepKey.getD false
      autoJoin := draft.autoJoin.getD true
      metering := draft.metering.getD .auto
      credential := draft.credential.getD none }

/-- Reads a profile record. -/
def read : Reader ProfileRecord := Reader.record form

/-- The profile that a record describes. -/
def toProfile (record : ProfileRecord) : Profile where
  name := record.name
  protocol := ProfileSecurity.protocol ⟨record.keyManagement, record.wepKey⟩
  credential := record.credential
  autoJoin := record.autoJoin
  metering := record.metering

end ProfileRecord

/-- Reads the text of a profile file. -/
def readProfiles (text : String) : Except Fault (List ProfileRecord) :=
  Reader.whole (Reader.list ProfileRecord.read) text

/-- The index of the profiles that records describe. -/
def ProfileIndex.ofRecords (records : List ProfileRecord) : ProfileIndex :=
  .ofList (records.map ProfileRecord.toProfile)

end WifiRoster
