import HttpRoutes.Address
import HttpRoutes.Config.File
import HttpRoutes.Server.Basic

/-!
# Starting a server

The routes are registered first, then the address is taken: nothing is answered before everything is
ready.
-/

namespace HttpRoutes

/-- Why a server cannot be started. -/
inductive StartError
  | app (error : AppError)
  /-- The address cannot be used; the text says why. -/
  | address (reason : String)
deriving DecidableEq, Repr

/-- The part of a text before its last colon and the part behind it. -/
def splitLastColon? (text : String) : Option (String × String) :=
  let behind := text.toList.reverse.takeWhile (· != ':')
  match text.toList.reverse.dropWhile (· != ':') with
  | _ :: before => some (String.ofList before.reverse, String.ofList behind.reverse)
  | [] => none

/-- Whether a text is a port: a number of sixteen bits, perhaps behind a plus sign. -/
def isPort (text : String) : Bool :=
  let digits := match text.toList with
    | '+' :: rest => rest
    | cs => cs
  match Address.readNumber Address.portShape digits with
  | some (_, []) => true
  | _ => false

/-- The address of a machine that is named by a number or is this one. Other names are not looked
up. -/
def hostIp? (host : String) : Option IpAddress :=
  if host = "localhost" then some (.v4 [127, 0, 0, 1]) else IpAddress.ofText? host

/-- The address of the machine that a bind address stands for. -/
def bindIp (text : String) : Except String IpAddress :=
  match SocketAddress.ofText? text with
  | some a => .ok a.ip
  | none =>
    match splitLastColon? text with
    | none => .error "invalid socket address"
    | some (host, port) =>
      if !isPort port then .error "invalid port value"
      else
        match hostIp? host with
        | some ip => .ok ip
        | none => .error "failed to lookup address information: Name or service not known"

/-- Take the address that a configuration asks for. -/
def takeAddress (text : String) : Except String IpAddress :=
  match bindIp text with
  | .error reason => .error reason
  | .ok ip => if ip.isLocal then .ok ip else .error "Cannot assign requested address (os error 99)"

/-- The server for a configuration, and the address where it listens. -/
def Server.start [Engine] (config : Config) : Except StartError (Server × IpAddress) :=
  match (Application.new config).result with
  | .error e => .error (.app e)
  | .ok app =>
    match takeAddress config.listener.bindAddress with
    | .error reason => .error (.address reason)
    | .ok ip => .ok (Server.new app, ip)

end HttpRoutes
