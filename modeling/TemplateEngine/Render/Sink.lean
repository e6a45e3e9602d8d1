import TemplateEngine.Render.Writer
import TemplateEngine.Value.Basic

/-! # Sinks

A sink takes what a render writes, one value or text after another. Each write changes its state and
may fail. -/

namespace TemplateEngine

structure Sink (σ : Type) where
  write : Value → σ → Except String Unit × σ
  /-- Text between tags. Unless a sink says otherwise it is a string like any other. -/
  writeText : String → σ → Except String Unit × σ := fun text => write (.string text)

def utf8 (text : String) : List UInt8 :=
  text.toList.flatMap String.utf8EncodeChar

namespace Sink

/-- Collects the text of everything written. -/
def text : Sink String where
  write value written := (.ok (), written ++ value.display)
  writeText text written := (.ok (), written ++ text)

/-- Records the values written, up to `limit` of them if there is a limit. -/
def values (limit : Option Nat) : Sink (List Value) where
  write value written :=
    if limit.all (written.length < ·) then (.ok (), written ++ [value])
    else (.error sinkFull, written)

/-- Hands the bytes of everything written to a writer. -/
def ofWriter {σ : Type} (writer : Writer σ) : Sink σ where
  write value := writer.writeAll (utf8 value.display)
  writeText text := writer.writeAll (utf8 text)

/-- Collects the bytes of everything written, up to `limit` of them if there is a limit. -/
def bytes (limit : Option Nat) : Sink (List UInt8) :=
  ofWriter (.upTo limit)

end Sink

end TemplateEngine
