import NativeBindings.Lowering
import NativeBindings.Text

/-!
# Preamble and entry points

The parts of a generated module that do not depend on its structs and operations.
-/
namespace NativeBindings

/-!
## The beginning of the module

A box that says that the file is generated, and the imports (`renderPreamble`).
-/

/-- What the beginning of a module depends on (`PreambleOptions`); `library` is the name of the
library's handle. -/
structure Preamble where
  generatorName : String
  runtimeModule : String
  /-- The name of the library's handle. -/
  library : String
  deriving DecidableEq, Repr, Inhabited

namespace Preamble

def notice : String := "Do not manually modify."

/-- The notice is centred under the title, rounded to the left (`renderHeaderBox`). -/
def headerBox (generatorName : String) : List String :=
  let title := s!"This file was auto-generated by {generatorName}"
  let inner := max (Text.width title) (Text.width notice)
  let left := (inner - Text.width notice) / 2
  let border := Text.copies (inner + 6) '#'
  let indent := Text.copies left ' '
  [border, s!"## {Text.padRight title inner} ##",
    s!"## {indent}{Text.padRight notice (inner - left)} ##", border]

def runtimeImports (library : String) : List String :=
  Text.sortByUnits [Naming.wideInteger, "dataclass", library, "validate_uint"]

def lines (p : Preamble) : List String :=
  headerBox p.generatorName ++
  ["from __future__ import annotations", "", "import ctypes", "import enum",
    "from collections.abc import Callable # noqa: TCH003", "from typing import Any", "",
    s!"from {p.runtimeModule} import " ++
      String.intercalate ", " (runtimeImports p.library), "", ""]

end Preamble

/-!
## Native entry points

The declarations of the library's lifecycle functions: the callback type and the functions that
open a client, open an echoing one, close one and submit a packet to one (`renderNativeFunctions`).
-/

/-- The library and the mapped names of the roles that its functions mention (`RoleNames`). -/
structure EntryPoints where
  library : String
  symbolPrefix : String
  status : String
  packet : String
  handle : String
  deriving DecidableEq, Repr, Inhabited

namespace EntryPoints

def packetPointer (e : EntryPoints) : String :=
  s!"ctypes.POINTER({Naming.structureClass e.packet})"

/-- A function of the library with its result and argument types. -/
def function (library symbol result : String) (arguments : List String) : List String :=
  [s!"{symbol} = {library}.{symbol}", s!"{symbol}.restype = {result}",
    s!"{symbol}.argtypes = [" ++ String.intercalate ", " arguments ++ "]"]

def openArguments (e : EntryPoints) : List String :=
  [s!"ctypes.POINTER({e.handle})", Naming.wideInteger, "ctypes.c_char_p", "ctypes.c_uint32",
    "ctypes.c_void_p", "OnCompletion"]

def lines (e : EntryPoints) : List String :=
  ["# bytes_ptr is not a c_char_p: that type is for null-terminated strings only.",
    s!"OnCompletion = ctypes.CFUNCTYPE(None, ctypes.c_void_p, {e.handle}, {e.packetPointer}, " ++
      "ctypes.c_uint64, ctypes.c_void_p, ctypes.c_uint32)",
    "",
    "# Connects to the given addresses; completed packets are passed to the callback with its " ++
      "context."] ++
  function e.library (e.symbolPrefix ++ "_init") e.status e.openArguments ++
  ["", "# Same as init, but every submitted packet is echoed back."] ++
  function e.library (e.symbolPrefix ++ "_init_echo") e.status e.openArguments ++
  ["", "# Completes pending packets with a shutdown status, then frees the client.",
    "# The client must not be used once deinit has been called."] ++
  function e.library (e.symbolPrefix ++ "_deinit") "None" [e.handle] ++
  ["", "# Submits a packet whose operation, data and data_size are set."] ++
  function e.library (e.symbolPrefix ++ "_submit") "None" [e.handle, e.packetPointer] ++
  ["", ""]

end EntryPoints
end NativeBindings
