import CandleAlerts.Decimal.Read
import CandleAlerts.Json.Read
import CandleAlerts.Market.Candle
import CandleAlerts.Market.Timeframe
import CandleAlerts.Text.Hex

/-!
Candles from an exchange that answers with rows of JSON.

A row holds the opening time in milliseconds and then opening price, high, low, close and volume, as
numbers or as texts. Rows of another shape are passed over.
-/

namespace CandleAlerts.Exchange

/-- What an exchange replies: a status and a body. -/
structure Reply where
  status : Nat
  body : String

def statusPhrase? (status : Nat) : Option String :=
  ([(100, "Continue"), (101, "Switching Protocols"), (102, "Processing"), (103, "Early Hints"),
    (200, "OK"), (201, "Created"), (202, "Accepted"), (203, "Non Authoritative Information"),
    (204, "No Content"), (205, "Reset Content"), (206, "Partial Content"), (207, "Multi-Status"),
    (208, "Already Reported"), (226, "IM Used"), (300, "Multiple Choices"),
    (301, "Moved Permanently"), (302, "Found"), (303, "See Other"), (304, "Not Modified"),
    (305, "Use Proxy"), (307, "Temporary Redirect"), (308, "Permanent Redirect"),
    (400, "Bad Request"), (401, "Unauthorized"), (402, "Payment Required"), (403, "Forbidden"),
    (404, "Not Found"), (405, "Method Not Allowed"), (406, "Not Acceptable"),
    (407, "Proxy Authentication Required"), (408, "Request Timeout"), (409, "Conflict"),
    (410, "Gone"), (411, "Length Required"), (412, "Precondition Failed"),
    (413, "Payload Too Large"), (414, "URI Too Long"), (415, "Unsupported Media Type"),
    (416, "Range Not Satisfiable"), (417, "Expectation Failed"), (418, "I'm a teapot"),
    (421, "Misdirected Request"), (422, "Unprocessable Entity"), (423, "Locked"),
    (424, "Failed Dependency"), (425, "Too Early"), (426, "Upgrade Required"),
    (428, "Precondition Required"), (429, "Too Many Requests"),
    (431, "Request Header Fields Too Large"), (451, "Unavailable For Legal Reasons"),
    (500, "Internal Server Error"), (501, "Not Implemented"), (502, "Bad Gateway"),
    (503, "Service Unavailable"), (504, "Gateway Timeout"), (505, "HTTP Version Not Supported"),
    (506, "Variant Also Negotiates"), (507, "Insufficient Storage"), (508, "Loop Detected"),
    (510, "Not Extended"), (511, "Network Authentication Required")].find?
      (fun entry => entry.1 == status)).map Prod.snd

def isPlain (byte : UInt8) : Bool :=
  let character := Char.ofNat byte.toNat
  byte < 128 && (character.isAlphanum || ['*', '-', '.', '_'].contains character)

/-- A text as a value in a query: a space becomes a plus sign, other bytes are escaped. -/
def queryValue (text : String) : List Char :=
  text.toUTF8.toList.flatMap (fun byte =>
    if isPlain byte then [Char.ofNat byte.toNat]
    else if byte = 0x20 then ['+']
    else '%' :: (Text.hexOfBytes [byte]).map Char.toUpper)

def query (symbol : String) (timeframe : Timeframe) (limit : Nat) : String :=
  String.ofList ("symbol=".toList ++ queryValue symbol ++ "&interval=".toList ++
    queryValue timeframe.text ++ "&limit=".toList ++ Nat.toDigits 10 limit)

def number? (value : Json) : Option Float :=
  value.float?.or (value.text?.bind (fun text => Decimal.readFloat? text.toList))

def candle? (row : Json) : Option Candle :=
  match row with
  | .array (time :: openPrice :: high :: low :: close :: volume :: _) => do
      return {
        time := (← time.int64?).tdiv 1000
        openPrice := ← number? openPrice
        high := ← number? high
        low := ← number? low
        close := ← number? close
        volume := ← number? volume }
  | _ => none

def candlesOf (rows : List Json) : List Candle :=
  (rows.filterMap candle?).mergeSort (fun first second => first.time ≤ second.time)

/-- The candles of a reply; none came when the exchange could not be reached. -/
def candles : Option Reply → Except String (List Candle)
  | none => .error "klines request failed"
  | some reply =>
      if 200 ≤ reply.status ∧ reply.status ≤ 299 then
        match (Json.parse? reply.body).bind Json.items? with
        | some rows => .ok (candlesOf rows)
        | none => .error "klines response is not JSON"
      else
        .error ("klines request failed with status " ++ toString reply.status ++ " " ++
          (statusPhrase? reply.status).getD "<unknown status code>" ++ ": " ++ reply.body)

end CandleAlerts.Exchange
