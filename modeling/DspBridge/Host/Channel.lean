import DspBridge.Text.Utf8

/-!
# Channels to the host

The two ends of a connection. What arrives is a finite sequence of bytes, after which the channel
is closed or fails. What is sent is kept; a channel can be limited in the bytes it takes and in how
often it can be flushed, and fails with a given text beyond that.
-/

namespace DspBridge.Host

/-- What the host sends. -/
structure Source where
  bytes : List UInt8
  /-- The failure that follows the bytes; without one the input ends. -/
  failure : Option String
  deriving DecidableEq, Repr

/-- The byte that ends a line. -/
def lineEnd : UInt8 := 10

/-- Bytes cut behind each end of line: the complete lines, ends included, and what follows them. -/
def cutLines : List UInt8 → List (List UInt8) × List UInt8
  | [] => ([], [])
  | byte :: rest =>
      let (lines, tail) := cutLines rest
      if byte == lineEnd then ([byte] :: lines, tail)
      else
        match lines with
        | [] => ([], byte :: tail)
        | line :: others => ((byte :: line) :: others, tail)

/-- The lines that arrive: the complete ones, and at the end of the input also an unfinished one. -/
def Source.lines (source : Source) : List (List UInt8) :=
  let (lines, tail) := cutLines source.bytes
  if source.failure.isSome || tail.isEmpty then lines else lines ++ [tail]

/-- A limit, and the failure beyond it. -/
structure Limit where
  count : Nat
  failure : String
  deriving DecidableEq, Repr

/-- What has been sent to the host. -/
structure Sink where
  sent : List UInt8
  flushes : Nat
  byteLimit : Option Limit
  flushLimit : Option Limit
  deriving DecidableEq, Repr

namespace Sink

/-- A channel that has taken nothing yet. -/
def new (byteLimit flushLimit : Option Limit) : Sink := ⟨[], 0, byteLimit, flushLimit⟩

/-- Send bytes. A limited channel takes those that fit before it fails. -/
def write (bytes : List UInt8) (sink : Sink) : Except String Unit × Sink :=
  match sink.byteLimit with
  | none => (.ok (), { sink with sent := sink.sent ++ bytes })
  | some limit =>
      let room := limit.count - sink.sent.length
      (if bytes.length ≤ room then .ok () else .error limit.failure,
        { sink with sent := sink.sent ++ bytes.take room })

/-- Flush what has been sent. -/
def flush (sink : Sink) : Except String Unit × Sink :=
  match sink.flushLimit with
  | none => (.ok (), { sink with flushes := sink.flushes + 1 })
  | some limit =>
      if sink.flushes < limit.count then (.ok (), { sink with flushes := sink.flushes + 1 })
      else (.error limit.failure, sink)

end Sink
end DspBridge.Host
