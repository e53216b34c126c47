/-
The debug-info parsers that the shell comes with: one that describes a small program in any view of
kind ELF, and one that never gets past its validity check.
-/
import ValueLattice.DebugInfo.Bench

namespace ValueLattice.Demo

/-- Adds a type, two functions and a data variable to views of kind ELF. -/
def elfParser (demangle? : String → Option String) : Parser where
  name := "demo-elf"
  isValid v := .done (v.kind == "ELF")
  script _ :=
    let size := Ty.int 8 false
    let main := { address := 0x401000 : FunctionInfo }.withRawName demangle?
      "_ZN4demo4main17h0123456789abcdefE"
    let lookup := { address := 0x401100 : FunctionInfo }.withRawName demangle?
      "_ZN4demo6lookup17h0123456789abcdefE"
    .require (.type "size_t" size) <|
      .require (.function (main.withReturnType .void)) <|
        .require (.function ((lookup.withReturnType (.int 4 true)).withParameter "key" size)) <|
          .require (.data 0x404000 size (some "TABLE_LEN")) .done

/-- Fails on every view. -/
def brokenParser : Parser where
  name := "demo-broken"
  isValid v := .failed ["cannot read the header of " ++ v.file]
  script _ := .done

/-- The parsers in the order of their registration. -/
def parsers (demangle? : String → Option String) : List Parser :=
  [elfParser demangle?, brokenParser]

/-- A bench with the parsers registered. -/
def bench (demangle? : String → Option String) : Bench :=
  (parsers demangle?).foldl (fun b p => (b.step (.register p none)).2.2) {}

end ValueLattice.Demo
