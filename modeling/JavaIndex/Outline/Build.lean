import JavaIndex.Config
import JavaIndex.FileTree
import JavaIndex.Java.References
import JavaIndex.Java.Unit

/-!
# Building outlines

The outline of one file, made from its source: read, parsed, and searched for its
package, its imports, its types and their mentions.

## Main definitions

* `Outline.ofTree` — the outline of a file whose tree is known
* `Outline.ofSource` — the outline of a file whose source is known
* `Outline.ofFile` — the outline of a file in a tree of files
-/

namespace JavaIndex.Outline

/-- The outline of a file with the given tree; a file that declares no type has none. -/
def ofTree (path : Path) (root : Java.Node) : Except Error Outline :=
  match Java.declaredTypes? root path.stemText? with
  | none => .error (.noDeclaredTypes path)
  | some declared =>
    let package := Java.packageName root
    let primary := QualifiedType.inPackage package declared.primary
    .ok
      { path := path
        primary := primary
        inner := TypeSet.ofList (declared.inner.map fun name =>
          ⟨primary.name ++ "." ++ name, .projectReference⟩)
        context := ImportContext.ofImports package (Java.importsOf root)
        references := Java.typeReferences root }

/-- The outline of a file with the given source. -/
def ofSource (parser : Parser) (path : Path) (source : String) : Except (Failure Error) Outline :=
  match parser source with
  | .error failure => .error (failure.map .parse)
  | .ok root =>
    match ofTree path root with
    | .error error => .error (.error error)
    | .ok outline => .ok outline

/-- The source of a file, which has to be text. -/
def sourceOf (tree : FileTree) (path : Path) : Except Error String :=
  match tree.readFile path with
  | .error failure => .error (.io failure)
  | .ok bytes =>
    match String.fromUTF8? bytes with
    | some text => .ok text
    | none => .error (.encoding path)

/-- The outline of a file as it stands in the tree of files. -/
def ofFile (parser : Parser) (tree : FileTree) (path : Path) : Except (Failure Error) Outline :=
  match sourceOf tree path with
  | .error error => .error (.error error)
  | .ok source => ofSource parser path source

end JavaIndex.Outline
