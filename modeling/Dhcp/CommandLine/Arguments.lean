import Dhcp.Address.Endpoint
import Dhcp.Address.Mac
import Dhcp.CommandLine.Scan
import Dhcp.Message.Forms
import Dhcp.Server.Config

/-!
# The commands and their arguments

There are two commands. `client` does one thing as a client and has a default for everything;
`server` hands one address out, which has to be given. In front of them stand only the options that
show help or the version, and the command `help`.

A number may have a plus sign in front. The lease time alone also takes a minus sign, in front of
zero.
-/

namespace Dhcp.CommandLine

/-! ## Values -/

/-- A value that a reading of it must accept. -/
def valueOf {α σ : Type} (read : String → Option α) (put : α → σ → σ) : Effect σ :=
  .takes fun text =>
    match read text with
    | some value => .ok (put value)
    | none => .error .valueValidation

/-- A whole number below `limit`. -/
def number? (limit : Nat) (text : String) : Option Nat :=
  let numeral : Text.Numeral := { limit := limit }
  match text.toList with
  | '+' :: digits => numeral.readAll? digits
  | digits => numeral.readAll? digits

/-- A whole number below `limit`, which may also be written as minus zero. -/
def signedNumber? (limit : Nat) (text : String) : Option Nat :=
  let zero : Text.Numeral := { limit := 1 }
  match text.toList with
  | '-' :: digits => zero.readAll? digits
  | _ => number? limit text

/-- The options that every command has. -/
def helpSwitch {σ : Type} : Switch σ :=
  { long := "help", short := some 'h', effect := .ends .displayHelp }

/-! ## The client -/

/-- What a client is to do. -/
inductive Action where
  /-- Obtain a lease. -/
  | lease
  | discover
  | renew
  | release
  | inform
deriving DecidableEq

/-- The action of a name. -/
def Action.ofText? : String → Option Action
  | "lease" => some .lease
  | "discover" => some .discover
  | "renew" => some .renew
  | "release" => some .release
  | "inform" => some .inform
  | _ => none

/-- The arguments of `client`. -/
structure ClientArguments where
  interface : Option String := none
  mac : Option Mac := none
  hostName : Option String := none
  /-- The seconds to wait for each reply. -/
  timeout : UInt64 := 10
  server : Option Ipv4 := none
  clientAddress : Option Ipv4 := none
  action : Action := .lease
deriving DecidableEq

/-- The options of `client`. -/
def clientSwitches : List (Switch ClientArguments) :=
  [{ long := "interface", short := some 'i'
     effect := valueOf some fun v a => { a with interface := some v } },
   { long := "mac", short := some 'm'
     effect := valueOf Mac.ofText? fun v a => { a with mac := some v } },
   { long := "hostname"
     effect := valueOf some fun v a => { a with hostName := some v } },
   { long := "timeout", short := some 't'
     effect := valueOf (number? UInt64.size) fun v a => { a with timeout := UInt64.ofNat v } },
   { long := "server"
     effect := valueOf Ipv4.ofText? fun v a => { a with server := some v } },
   { long := "client-ip"
     effect := valueOf Ipv4.ofText? fun v a => { a with clientAddress := some v } },
   { long := "action", short := some 'a'
     effect := .takes fun text =>
       match Action.ofText? text with
       | some action => .ok fun a => { a with action := action }
       | none => .error .invalidValue },
   helpSwitch]

/-! ## The server -/

/-- The arguments of `server`. -/
structure ServerArguments where
  listen : Ipv4Endpoint := serverEndpoint
  interface : Option String := none
  /-- The address that is handed out. -/
  offer : Ipv4
  serverAddress : Option Ipv4 := none
  subnetMask : Option Ipv4 := none
  router : Option Ipv4 := none
  nameServers : List Ipv4 := []
  leaseTime : UInt32 := defaultLeaseTime
  maxInFlight : UInt64 := 64
  unicast : Bool := false
deriving DecidableEq

/-- The arguments of `server` while they are read: the address that is handed out may not have come
yet. -/
structure ServerDraft where
  offer : Option Ipv4 := none
  rest : ServerArguments := { offer := .unspecified }

/-- The arguments that a draft comes to; the address must have come. -/
def ServerDraft.finish (d : ServerDraft) : Except Refusal ServerArguments :=
  match d.offer with
  | some offer => .ok { d.rest with offer := offer }
  | none => .error .missingRequiredArgument

/-- A value that changes what does not have to be given. -/
def restOf {α : Type} (read : String → Option α) (put : α → ServerArguments → ServerArguments) :
    Effect ServerDraft :=
  valueOf read fun v d => { d with rest := put v d.rest }

/-- The options of `server`. -/
def serverSwitches : List (Switch ServerDraft) :=
  [{ long := "listen", short := some 'l'
     effect := restOf Ipv4Endpoint.ofText? fun v a => { a with listen := v } },
   { long := "interface", short := some 'i'
     effect := restOf some fun v a => { a with interface := some v } },
   { long := "offer-ip"
     effect := valueOf Ipv4.ofText? fun v d => { d with offer := some v } },
   { long := "server-ip"
     effect := restOf Ipv4.ofText? fun v a => { a with serverAddress := some v } },
   { long := "subnet-mask"
     effect := restOf Ipv4.ofText? fun v a => { a with subnetMask := some v } },
   { long := "router"
     effect := restOf Ipv4.ofText? fun v a => { a with router := some v } },
   { long := "dns", repeats := true
     effect := restOf Ipv4.ofText? fun v a => { a with nameServers := a.nameServers ++ [v] } },
   { long := "lease-time"
     effect :=
       restOf (signedNumber? UInt32.size) fun v a => { a with leaseTime := UInt32.ofNat v } },
   { long := "max-in-flight"
     effect := restOf (number? UInt64.size) fun v a => { a with maxInFlight := UInt64.ofNat v } },
   { long := "unicast"
     effect := .sets fun d => { d with rest := { d.rest with unicast := true } } },
   helpSwitch]

/-! ## Commands -/

/-- A command with its arguments. -/
inductive Command where
  | client (arguments : ClientArguments)
  | server (arguments : ServerArguments)
deriving DecidableEq

/-- The names of the commands. -/
def commandNames : List String := ["client", "server", "help"]

/-- The options in front of a command, none of which leads to one. -/
def frontSwitches : List (Switch Unit) :=
  [helpSwitch, { long := "version", short := some 'V', effect := .ends .displayVersion }]

/-- What asking for help comes to: help with the program or with one command, and no more than
that. -/
def helpOn : List String → Refusal
  | [] => .displayHelp
  | [name] => if name ∈ commandNames then .displayHelp else .invalidSubcommand
  | _ => .invalidSubcommand

/-- The refusal of an argument in front of which no command stands. -/
def refusalInFront (arguments : List String) : Token → Refusal
  | .escape =>
    match arguments with
    | [] => .displayHelpForMissing
    | next :: _ => if next ∈ commandNames then .unknownArgument else .invalidSubcommand
  | .plain _ => .invalidSubcommand
  | .long name value =>
    match Scan.readLong { settings := () } frontSwitches name value with
    | .error refusal => refusal
    | .ok _ => .displayHelpForMissing
  | .short letters =>
    match Scan.readShort { settings := () } frontSwitches letters with
    | .error refusal => refusal
    | .ok _ => .displayHelpForMissing

/-- The command that arguments ask for. -/
def Command.ofArguments : List String → Except Refusal Command
  | [] => .error .displayHelpForMissing
  | "client" :: arguments => (scan clientSwitches arguments {}).map .client
  | "server" :: arguments => do
    let draft ← scan serverSwitches arguments {}
    (draft.finish).map .server
  | "help" :: arguments => .error (helpOn arguments)
  | argument :: arguments => .error (refusalInFront arguments (Token.ofArgument argument))

end Dhcp.CommandLine
