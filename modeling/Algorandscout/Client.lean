import Algorandscout.Python.Json

namespace Algorandscout

/-!
# The upstream client

What `client.py` asks of its two upstreams, and what it raises.

* `AlgorandError` — with `retryable` and `callerError`;
* `AlgorandConfig` — where its upstreams are;
* `Call` — the read methods, each with the request it makes (`Call.request`);
* `getUrl` — the URL `_get` builds: base, path, and the encoded query.
-/

/-- What the client raises; `NotFound` is its subclass for a 404.  `status` is the HTTP status,
    or `none` on transport failure. -/
structure AlgorandError where
  isNotFound : Bool
  message : String
  status : Option Int
  url : String
  deriving DecidableEq, Repr

/-- `NotFound(f"not found: {path}", status=404, url=url)`. -/
def AlgorandError.notFound (path url : String) : AlgorandError where
  isNotFound := true
  message := s!"not found: {path}"
  status := some 404
  url := url

/-- `retryable`: transport failures, 5xx, and 429. -/
def AlgorandError.retryable (e : AlgorandError) : Bool :=
  match e.status with
  | none => true
  | some s => s ≥ 500 || s == 429

/-- `caller_error`: the upstream blamed the request (4xx except 429). -/
def AlgorandError.callerError (e : AlgorandError) : Bool :=
  match e.status with
  | none => false
  | some s => 400 ≤ s && s < 500 && s != 429

/-! ### Requests -/

/-- algod knows now, the indexer knows history. -/
inductive Upstream where
  | algod
  | indexer
  deriving DecidableEq, Repr

/-- What the client is configured with, the request headers aside. -/
structure AlgorandConfig where
  algodUrl : String
  indexerUrl : String
  network : String

/-- `AlgorandConfig()`, with nothing set. -/
def mainnetConfig : AlgorandConfig where
  algodUrl := "https://mainnet-api.algonode.cloud"
  indexerUrl := "https://mainnet-idx.algonode.cloud"
  network := "mainnet"

/-- The URL below which an upstream is. -/
def AlgorandConfig.baseUrl (config : AlgorandConfig) : Upstream → String
  | .algod => config.algodUrl
  | .indexer => config.indexerUrl

/-- One request: the path below the upstream's base URL, and the parameters (`null` is absent). -/
structure Request where
  upstream : Upstream
  path : String
  params : Dict

/-- An optional parameter. -/
def optParam {α : Type} (toJson : α → Json) : Option α → Json
  | none => .null
  | some a => toJson a

/-- The read methods of the client.  A round and an asset id may come out of a payload, and are
    passed on unlooked at. -/
inductive Call where
  | status
  | indexerHealth
  | account (address : String) (live : Bool)
  | accountAssets (address : String) (limit : Int) (nextToken : Option String)
  | accountTransactions (address : String) (limit : Int)
      (nextToken afterTime beforeTime txType : Option String) (assetId : Option Int)
  | transaction (txid : String)
  | block (roundNumber : Json)
  | asset (assetId : Json)
  | assetBalances (assetId : Int) (limit : Int) (nextToken : Option String)
  | application (appId : Int)
  | applicationBoxes (appId : Int) (limit : Int) (nextToken : Option String)
  | searchAssets (unit name : Option String) (limit : Int)
  | indexer (path : String) (params : Dict)

/-- The request a read method makes. -/
def Call.request : Call → Request
  | .status => ⟨.algod, "/v2/status", []⟩
  | .indexerHealth => ⟨.indexer, "/health", []⟩
  | .account address live =>
    ⟨if live then .algod else .indexer, s!"/v2/accounts/{address}", []⟩
  | .accountAssets address limit nextToken =>
    ⟨.indexer, s!"/v2/accounts/{address}/assets",
      [("limit", .int limit), ("next", optParam .str nextToken)]⟩
  | .accountTransactions address limit nextToken afterTime beforeTime txType assetId =>
    ⟨.indexer, s!"/v2/accounts/{address}/transactions",
      [("limit", .int limit), ("next", optParam .str nextToken),
        ("after-time", optParam .str afterTime), ("before-time", optParam .str beforeTime),
        ("tx-type", optParam .str txType), ("asset-id", optParam .int assetId)]⟩
  | .transaction txid => ⟨.indexer, s!"/v2/transactions/{txid}", []⟩
  | .block roundNumber => ⟨.indexer, s!"/v2/blocks/{roundNumber.pyStr}", []⟩
  | .asset assetId => ⟨.indexer, s!"/v2/assets/{assetId.pyStr}", []⟩
  | .assetBalances assetId limit nextToken =>
    ⟨.indexer, s!"/v2/assets/{assetId}/balances",
      [("limit", .int limit), ("next", optParam .str nextToken)]⟩
  | .application appId => ⟨.indexer, s!"/v2/applications/{appId}", []⟩
  | .applicationBoxes appId limit nextToken =>
    ⟨.indexer, s!"/v2/applications/{appId}/boxes",
      [("limit", .int limit), ("next", optParam .str nextToken)]⟩
  | .searchAssets unit name limit =>
    ⟨.indexer, "/v2/assets",
      [("unit", optParam .str unit), ("name", optParam .str name), ("limit", .int limit)]⟩
  | .indexer path params => ⟨.indexer, path, params⟩

/-! ### URLs -/

/-- `%XX`. -/
def percentByte (b : UInt8) : List Char :=
  ['%', (Nat.digitChar (b.toNat / 16)).toUpper, (Nat.digitChar (b.toNat % 16)).toUpper]

/-- `urllib.parse.quote_plus(s)`. -/
def quotePlus (s : String) : List Char :=
  s.toList.flatMap fun c =>
    if (c.isAlphanum || ['_', '.', '-', '~'].contains c) then [c]
    else if c = ' ' then ['+']
    else (String.utf8EncodeChar c).flatMap percentByte

/-- `urllib.parse.urlencode(query)`. -/
def urlencode (query : Dict) : List Char :=
  ['&'].intercalate (query.map fun (k, v) => quotePlus k ++ '=' :: quotePlus v.pyStr)

/-- The query part of a URL: nothing, or a question mark and the parameters that are set. -/
def queryPart (params : Dict) : List Char :=
  let query := params.filter fun (_, v) => !v.isNull
  if query.isEmpty then [] else '?' :: urlencode query

/-- The URL `_get` asks for. -/
def getUrl (base path : String) (params : Dict) : String :=
  String.ofList (base.toList ++ path.toList ++ queryPart params)

theorem queryPart_eq (params : Dict) :
    queryPart params = [] ∨ ∃ query, queryPart params = '?' :: query := by
  unfold queryPart
  dsimp only
  split_ifs
  · exact .inl rfl
  · exact .inr ⟨_, rfl⟩

end Algorandscout
