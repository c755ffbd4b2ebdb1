import KrakenSdk.Conn.Types
/-!
# Trading pairs from the wire (types/symbol.rs, types/asset.rs)

`Symbol::new` checks the shape of a pair and keeps its upper-case spelling.
-/
namespace KrakenSdk.Types

open KrakenSdk.Conn (Symbol strStartsWith)

/-- `SymbolError` (symbol.rs:64); `NonAlphabetic` belongs to asset codes. -/
inductive SymbolError where
  | empty | legacyPrefix | nonAlphanumeric | missingSeparator
  deriving DecidableEq, Repr

/-- The table of `normalise_asset` (asset.rs:81). -/
def legacyAssets : List (String × String) :=
  [("XXBT", "BTC"), ("XBT", "BTC"), ("XETC", "ETC"), ("XETH", "ETH"), ("XLTC", "LTC"), ("XMLN", "MLN"),
    ("XREP", "REP"), ("XXDG", "XDG"), ("XXLM", "XLM"), ("XXMR", "XMR"), ("XXRP", "XRP"), ("XZEC", "ZEC"),
    ("ZARS", "ARS"), ("ZAUD", "AUD"), ("ZCAD", "CAD"), ("ZCLP", "CLP"), ("ZCOP", "COP"), ("ZDKK", "DKK"),
    ("ZEUR", "EUR"), ("ZGBP", "GBP"), ("ZGEL", "GEL"), ("ZGHS", "GHS"), ("ZJPY", "JPY"), ("ZLKR", "LKR"),
    ("ZMXN", "MXN"), ("ZPLN", "PLN"), ("ZSEK", "SEK"), ("ZUGX", "UGX"), ("ZUSD", "USD"), ("ZVND", "VND"),
    ("ZXOF", "XOF"), ("KFEE", "FEE")]

/-- `normalise_asset` (asset.rs:81). -/
def normaliseAsset (raw : String) : String := ((legacyAssets.find? (·.1 = raw)).map (·.2)).getD raw

/-- `str::to_ascii_uppercase`. -/
def toAsciiUppercase (s : String) : String := String.ofList (s.toList.map Char.toUpper)

/-- `str::split_once`. -/
def splitOnce (s : String) (c : Char) : Option (String × String) :=
  match s.toList.span (· ≠ c) with
  | (before, _ :: after) => some (String.ofList before, String.ofList after)
  | (_, []) => none

/-- `Symbol::validate_leg` (symbol.rs:32). -/
def validateLeg (leg : String) : Except SymbolError Unit :=
  if leg.toList = [] then .error .empty
  else if !leg.toList.all Char.isAlphanum then .error .nonAlphanumeric
  else if normaliseAsset (toAsciiUppercase leg) ≠ toAsciiUppercase leg then .error .legacyPrefix
  else .ok ()

/-- `Symbol::new` (symbol.rs:14). -/
def Symbol.new (wire : String) : Except SymbolError Symbol :=
  if wire.toList = [] then .error .empty
  else if strStartsWith wire "XX" || strStartsWith wire "ZZ" then .error .legacyPrefix
  else match splitOnce wire '/' with
    | none => .error .missingSeparator
    | some (base, quote) => do
      validateLeg base
      validateLeg quote
      .ok (toAsciiUppercase wire)

end KrakenSdk.Types
