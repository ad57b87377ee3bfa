import AlphaTrade.Library.CanonicalJson

/-!
# Hashing a set of trades as it passes

The bytes of a document and the bytes fed to an incremental digest are texts here, and a
digest is a function of the text. Feeding an incremental digest twice is feeding it the two
texts one behind the other.
-/
namespace AlphaTrade.Market
open Library

/-- Unicode normalization and the digest of a text in UTF-8. Normalization leaves ASCII as it
is. -/
structure TextHashing where
  nfc : String → String
  sha256 : String → String
  nfc_ascii : ∀ s : String, s.toList.all (·.toNat < 128) → nfc s = s

variable (hashing : TextHashing)

/-- `_json_string`. -/
def jsonString (value : String) : String := dumpString (hashing.nfc value)

/-- An incremental digest: what it was fed, and how many items. -/
structure SetHasher where
  fed : String
  count : Nat
  deriving DecidableEq, Repr

def SetHasher.add (hasher : SetHasher) (item : String) : SetHasher :=
  ⟨hasher.fed ++ (if hasher.count = 0 then "" else ",") ++ item, hasher.count + 1⟩

def SetHasher.hexdigest (hasher : SetHasher) : String :=
  hashing.sha256 (hasher.fed ++ "]\x7d")

namespace TradeSetHasher

def new : SetHasher := ⟨"\x7b\"events\":[", 0⟩

def add (hasher : SetHasher) (venueTradeId : String) (sequence : Nat) (contentHash : String) :
    SetHasher :=
  hasher.add ("\x7b\"content_hash\":" ++ jsonString hashing contentHash ++ ",\"sequence\":" ++
    toString sequence ++ ",\"venue_trade_id\":" ++ jsonString hashing venueTradeId ++ "\x7d")

end TradeSetHasher

namespace VenueIdSetHasher

def new : SetHasher := ⟨"\x7b\"venue_trade_ids\":[", 0⟩

def add (hasher : SetHasher) (venueTradeId : String) : SetHasher :=
  hasher.add (jsonString hashing venueTradeId)

end VenueIdSetHasher

end AlphaTrade.Market
