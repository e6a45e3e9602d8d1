/-! # Writers

A writer takes bytes, and may take fewer at a time than it is given. Bytes are written by handing
over what is left until nothing is left or the writer fails. -/

namespace TemplateEngine

structure Writer (σ : Type) where
  /-- Takes bytes from the front: how many, or the reason why it fails. -/
  write : List UInt8 → σ → Except String Nat × σ

/-- The reason of a writer that does not fail but takes nothing. -/
def wholeNotWritten : String := "failed to write whole buffer"

/-- The reason that a writer or a sink without room gives. -/
def sinkFull : String := "sink full"

namespace Writer

variable {σ : Type}

/-- Hands over all bytes, in as many steps as it takes. -/
def writeAll (writer : Writer σ) : List UInt8 → σ → Except String Unit × σ
  | [], state => (.ok (), state)
  | byte :: bytes, state =>
    match writer.write (byte :: bytes) state with
    | (.ok 0, state) => (.error wholeNotWritten, state)
    | (.ok (count + 1), state) => writeAll writer (bytes.drop count) state
    | (.error reason, state) => (.error reason, state)
termination_by bytes => bytes.length
decreasing_by
  simp only [List.length_drop, List.length_cons]
  omega

/-- Prints bytes after those printed before. It never fails. -/
def printer : Writer ByteArray where
  write bytes printed := (.ok bytes.length, printed ++ ⟨bytes.toArray⟩)

/-- Collects bytes, up to `limit` of them if there is a limit. Without room it fails. -/
def upTo (limit : Option Nat) : Writer (List UInt8) where
  write bytes written :=
    match limit with
    | none => (.ok bytes.length, written ++ bytes)
    | some limit =>
      let room := limit - written.length
      if room = 0 then (.error sinkFull, written)
      else (.ok (min bytes.length room), written ++ bytes.take room)

end Writer

end TemplateEngine
