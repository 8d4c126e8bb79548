import GhostbustersServer.Rmc.Dispatcher
import GhostbustersServer.Rmc.Types

/-!
# Login and registration

`protocols/authentication.py` (proto 10), `protocols/secure_connection.py`
(proto 11), `protocols/account_management.py` (proto 25).
-/

namespace Ghostbusters

open Py

def quazalSuccess : Nat := 0x00010001

/-- What every handler answers a request it cannot parse. -/
def parseFailed (proto : Nat) (request : Request) : Message :=
  .error { proto, callId := request.callId, errorCode := 0x80030001 }

/-- `try: parse(params)` of a handler that answers with an error when it raises. -/
def withParsed {α : Type} (proto : Nat) (parse : Act Reader Exc α) (request : Request)
    (k : α → Srv Message) : Srv Message :=
  match Reader.parse parse request.params with
  | .error _ => pure (parseFailed proto request)
  | .ok a => k a

variable (env : Env)

namespace Authentication

def proto : Nat := 10

def methodLogin : Nat := 1

def methodRequestTicket : Nat := 3

/-- Empty special-protocols list, struct version word, empty server name. -/
def loginTrailer : Bytes := [0, 0, 0, 0, 1, 0, 0, 1, 0, 0]

def secureStationUrl : Str :=
  "prudps:/address=".toList ++ env.publicHost ++ ";port=".toList ++ decimal Port.secure.number ++
    ";CID=1;PID=".toList ++ decimal authPid ++ ";sid=1;stream=3;type=2".toList

/-- Bytes that making a cipher draws: session key, and padding of the ticket. -/
def drawn (totalSize : Nat) : Nat :=
  let ticketLen := totalSize - Kerberos.hmacTagSize - Kerberos.sessionKeySize - 8
  ticketLen - Kerberos.hmacTagSize - 4

def login (request : Request) : Srv Message :=
  withParsed proto Reader.qstring request fun username => do
    if username = [] then
      return .error { proto, callId := request.callId, errorCode := 0x80030002 }
    let pid ← Srv.useDb do
      Db.openDb env
      findOrCreateAccount env username
    let rand ← Srv.random env (drawn Kerberos.loginCipherSize)
    let (cipher, _) ← Act.ofExcept (Kerberos.buildLoginCipher env.crypto pid serverPid rand)
    return .ok { proto, method := methodLogin, callId := request.callId
                 ret := wU32 quazalSuccess ++ wU32 pid ++ wQbuffer cipher ++
                   wQstring (secureStationUrl env) ++ loginTrailer }

def sourceAndTarget : Act Reader Exc (Nat × Nat) := do
  let source ← Reader.u32
  let target ← Reader.u32
  return (source, target)

def requestTicket (request : Request) : Srv Message :=
  withParsed proto sourceAndTarget request fun (sourcePid, targetPid) => do
    let rand ← Srv.random env (drawn Kerberos.requestTicketCipherSize)
    let (cipher, _) ← Act.ofExcept
      (Kerberos.buildRequestTicketCipher env.crypto sourcePid targetPid rand)
    return .ok { proto, method := methodRequestTicket, callId := request.callId
                 ret := wU32 quazalSuccess ++ wQbuffer cipher }

end Authentication

namespace SecureConnection

def proto : Nat := 11

def methodRegisterEx : Nat := 4

/-- `s.split(";")`. -/
def tokens (url : Str) : List Str := url.splitOn ';'

/-- Without any `;sid=...` token. -/
def stripSid (url : Str) : Str :=
  [';'].intercalate ((tokens url).filter fun t => !("sid=".toList).isPrefixOf t)

/-- The class name and the data behind it; neither slice is checked. -/
def parseAnyClassName : Act Reader Exc (Str × Bytes) := do
  let nameLen ← Reader.u16
  let rawName ← Reader.takeUnchecked nameLen
  let dataSize ← Reader.u32
  let data ← Reader.takeUnchecked dataSize
  return (utf8DecodeReplace (rstripNul rawName), data)

def registerExParams : Act Reader Exc (List Str) := do
  let urlCount ← Reader.u32
  let urls ← Reader.qstrings urlCount
  let _ ← parseAnyClassName
  return urls

/-- The observed endpoint of a client. -/
def publicUrl (remote : Remote) : Str :=
  "prudp:/address=".toList ++ remote.ip ++ ";port=".toList ++ decimal remote.port ++
    ";sid=15;type=3".toList

def withRvcid (url : Str) (cid : Nat) : Str := url ++ ";RVCID=".toList ++ decimal cid

/-- The connection's id, drawn from the process-wide counter the first time. -/
def connectionId (c : ConnId) : Srv Nat := do
  let conn ← Srv.conn c
  if conn.rvConnectionId ≠ 0 then pure conn.rvConnectionId
  else do
    let w ← Act.get
    Act.modify fun w => { w with nextConnectionId := w.nextConnectionId + 1 }
    Srv.setConn c fun conn => { conn with rvConnectionId := w.nextConnectionId }
    pure w.nextConnectionId

def registerEx (c : ConnId) (request : Request) : Srv Message :=
  withParsed proto registerExParams request fun urls => do
    let cid ← connectionId c
    let conn ← Srv.conn c
    let lan := urls.map fun u => withRvcid (stripSid u) cid
    let wan := withRvcid (publicUrl conn.remote) cid
    Srv.setConn c fun conn => { conn with stationUrls := lan ++ [wan] }
    return .ok { proto, method := methodRegisterEx, callId := request.callId
                 ret := wU32 quazalSuccess ++ wU32 cid ++ wQstring (publicUrl conn.remote) }

end SecureConnection

namespace AccountManagement

def proto : Nat := 25

def methodGetAccountInfo : Nat := 9

/-- Any marker, class name, three size words, thirty zero bytes. -/
def emptyAccountInfoPublicData : Bytes :=
  [1, 0x16, 0] ++ utf8Encode "AccountInfoPublicData".toList ++ [0] ++
    [0x26, 0, 0, 0, 0x22, 0, 0, 0, 0x20, 0, 0, 0] ++ List.replicate 30 0

def getAccountInfoPublicData (request : Request) : Srv Message :=
  withParsed proto Reader.u32 request fun _ =>
    pure (.ok { proto, method := methodGetAccountInfo, callId := request.callId
                ret := emptyAccountInfoPublicData })

end AccountManagement
end Ghostbusters
