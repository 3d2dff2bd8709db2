import LabelPress.Element.Commands
import LabelPress.Template.Basic

/-!
# Compiling templates

A template becomes a program: the frame of a label around the commands of its elements in the
order of printing.

## Main definitions

* `readsTags` - whether an element prints what a tag holds.
* `compileProgram`, `Template.compile` - the program and the document of a template.
-/

namespace LabelPress

open LabelPress.Zpl

/-- Whether the element prints what a tag holds. -/
def Element.readsTag (e : Element) : Bool :=
  match e.binding with
  | .rfid _ => true
  | .unbound | .fillable _ => false

/-- Tags are enabled if a visible element reads one. -/
def tagSetup (options : CompileOptions) (es : List Element) : List Command :=
  if es.any Element.readsTag then [.rfidSetup options.scheme.tagType] else []

/-- The commands before those of the elements. -/
def preamble (canvas : Canvas) : List Command :=
  [.startFormat, .printWidth canvas.widthDots, .labelLength canvas.heightDots, .labelHome 0 0]

def compileProgram (canvas : Canvas) (elements : List Element) (options : CompileOptions) :
    Program :=
  let es := printOrder elements
  ⟨preamble canvas ++ tagSetup options es ++ es.flatMap (·.commands canvas.dpi options)
    ++ [.endFormat]⟩

namespace Template

def program (t : Template) (options : CompileOptions) : Program :=
  compileProgram t.canvas t.elements options

/-- The document of a template. -/
def compile (t : Template) (options : CompileOptions) : String :=
  (t.program options).document

end Template

end LabelPress
