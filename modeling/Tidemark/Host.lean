import Std.Async.DNS
import Std.Async.Signal
import Std.Async.TCP
import Std.Async.Timer
import Std.Time
import Tidemark.Command.Run
import Tidemark.Remote.Message

/-!
# The host of the program

The files, the network, the clock and the signals of the computer that the program runs on, as the
machine that commands work on.  Everything that decides what is sent, written or printed is
elsewhere.
-/

namespace Tidemark.Host

open Std.Async

/-! ### Files -/

/-- The fault with a number of the operating system. -/
def faultNumbered? (code : UInt32) : Option Storage.IoFault :=
  if code = 2 then some .notFound
  else if code = 17 then some .alreadyExists
  else if code = 20 then some .notADirectory
  else if code = 21 then some .isADirectory
  else if code = 36 then some .nameTooLong
  else none

/-- The number that the operating system gave to an error, which may come with its sign changed. -/
def numberOf (e : IO.Error) : UInt32 :=
  let code := given e
  if code < 0x80000000 then code else 0 - code
where
  /-- The number as it comes. -/
  given : IO.Error → UInt32
  | .noFileOrDirectory _ code _ => code
    | .alreadyExists _ code _ => code
    | .inappropriateType _ code _ => code
    | .invalidArgument _ code _ => code
    | .noSuchThing _ code _ => code
    | _ => 0

/-- The fault that an error of the computer stands for. -/
def faultOf (e : IO.Error) : Storage.IoFault :=
  (faultNumbered? (numberOf e)).getD (.other e.toString)

/-- The result of an action that may fail. -/
def attempt {α : Type} (action : IO α) : IO (Except Storage.IoFault α) := do
  match ← action.toBaseIO with
  | .ok a => return .ok a
  | .error e => return .error (faultOf e)

/-- A byte as two hexadecimal digits. -/
def hexPair (b : UInt8) : List Char :=
  [Json.hexDigit (b.toNat / 16), Json.hexDigit (b.toNat % 16)]

/-- Random bytes as a name: groups of hexadecimal digits with hyphens between them. -/
def nameOf (bytes : List UInt8) : String :=
  let groups := [bytes.take 4, (bytes.drop 4).take 2, (bytes.drop 6).take 2, (bytes.drop 8).take 2,
    bytes.drop 10]
  String.intercalate "-" (groups.map fun g => String.ofList (g.flatMap hexPair))

/-- The files of the computer. -/
def fileSystem : Storage.FileSystem IO where
  makeDirectories p := attempt (IO.FS.createDirAll p.text)
  write p content := attempt (IO.FS.writeBinFile p.text content)
  rename source target := attempt (IO.FS.rename source.text target.text)
  remove p := attempt (IO.FS.removeFile p.text)
  read p := attempt (IO.FS.readBinFile p.text)
  freshName := return nameOf (← IO.getRandomBytes 16).toList

/-- The text of the file at a path. -/
def readText (path : String) : IO (Except Storage.IoFault String) := do
  return (← attempt (IO.FS.readBinFile path)).bind Storage.Directory.decode

/-! ### The clock -/

/-- The time. -/
def now : IO Time.Instant := do
  let elapsed := (← Std.Time.Timestamp.now).toNanosecondsSinceUnixEpoch.toInt
  return .ofUnix (elapsed / 1000000000) (elapsed % 1000000000).toNat

/-! ### The network -/

/-- The number of bytes that are received at once. -/
def pageSize : UInt64 := 65536

/-- Collects what comes on a connection until it is closed. -/
partial def receive (socket : TCP.Socket.Client) (sofar : ByteArray) : Async ByteArray := do
  match ← socket.recv? pageSize with
  | none => return sofar
  | some bytes => receive socket (sofar ++ bytes)

/-- The address of a host. -/
def addressOf (host : String) (port : UInt16) : Async Std.Net.SocketAddress := do
  let inner := String.ofList (host.toList.filter fun c => c ≠ '[' ∧ c ≠ ']')
  match (← DNS.getAddrInfo inner (toString port)).toList with
  | .v4 addr :: _ => return .v4 ⟨addr, port⟩
  | .v6 addr :: _ => return .v6 ⟨addr, port⟩
  | [] => throw (IO.userError ("no address for " ++ host))

/-- Sends a request on a connection of its own and reads the answer. -/
def exchange (r : Remote.Request) : Async (Option Remote.Response) := do
  let port := (r.url.port.or (Url.defaultPort r.url.scheme)).getD 80
  let address ← addressOf (r.url.host.getD "") (UInt16.ofNat port)
  let socket ← TCP.Socket.Client.mk
  socket.connect address
  socket.send (Remote.Message.encode r)
  return Remote.Message.decode? (← receive socket .empty).toList

/-- Sends a request and waits for the answer; only requests that are not encrypted can be sent. -/
def send (timeoutMs : Nat) (r : Remote.Request) : IO (Option Remote.Response) := do
  if r.url.scheme ≠ "http" then return none
  let late : Async (Option Remote.Response) := do
    sleep (.ofNat timeoutMs)
    return none
  let race : Async (Option Remote.Response) := Async.race (exchange r) late
  match ← race.block.toBaseIO with
  | .ok answer => return answer
  | .error _ => return none

/-- The network; the bodies of answers are taken for UTF-8. -/
def transport (timeoutMs : Nat) : Remote.Transport IO :=
  ⟨send timeoutMs, .utf8⟩

/-! ### Waiting -/

/-- The longest time between two looks at a signal to stop, in milliseconds. -/
def lookMs : Nat := 20

/-- Waits until a moment, unless an interrupt comes first. -/
partial def waitUntil (due : Nat) (interrupt : AsyncTask Int) : IO Unit := do
  if ← IO.hasFinished interrupt then return
  let t ← IO.monoMsNow
  if due ≤ t then return
  IO.sleep (UInt32.ofNat (min lookMs (due - t)))
  waitUntil due interrupt

/-- Waits for the next cycle; the first one is due at once. -/
def wait (due : IO.Ref Nat) (interrupt : AsyncTask Int) (intervalMs : Nat) : IO Unit := do
  waitUntil (← due.get) interrupt
  due.set ((← IO.monoMsNow) + intervalMs)

/-- The signal to stop: an interrupt that has come. -/
def signal (interrupt : AsyncTask Int) : IO (Option Daemon.Signal) := do
  return if ← IO.hasFinished interrupt then some .sent else none

/-! ### Output -/

/-- Prints a text at once. -/
def print (s : String) : IO (Except String Unit) := do
  let out ← IO.getStdout
  let action : IO Unit := do
    out.putStr s
    out.flush
  match ← action.toBaseIO with
  | .ok () => return .ok ()
  | .error e => return .error e.toString

/-- The computer as a machine for commands; an interrupt is a signal to stop. -/
def machine : IO (Command.Machine IO) := do
  let due ← IO.mkRef 0
  let interrupt ← (← Signal.Waiter.mk .sigint false).wait
  return {
    readText, fileSystem, transport, now, print
    wait := wait due interrupt
    signal := signal interrupt }

end Tidemark.Host
