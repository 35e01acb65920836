import Affinity.Source.Checkout
import Affinity.Source.Delivery

/-!
# The world around the program

The program asks the world for files, variables and the time. A world whose actions do nothing but
answer holds everything in memory.

* `World` — the questions.
* `World.fetch` — the files of a checkout.
* `World.load` — one source file.
* `World.ofNode` — the world with a tree of files and variables, in which no time passes.
-/

namespace Affinity

/-! ## Questions -/

/-- What the program asks for; paths are relative to the folder in which it runs. -/
structure World (m : Type → Type) where
  /-- What stands at a path; nothing if nothing does. -/
  checkout? : Path → m (Option Checkout)
  /-- A file stands at the path. -/
  isFile : Path → m Bool
  /-- The bytes of a file, or why they cannot be read. -/
  read : Path → m (Except String Bytes)
  /-- The number of folders around the one in which the program runs. -/
  depth : m Nat
  /-- The environment variables. -/
  environment : m (List (String × String))
  /-- Milliseconds since some moment. -/
  clock : m Nat
  /-- The output is shown to a person. -/
  isTerminal : m Bool

/-- The path of something below a folder. -/
def Path.join (folder below : Path) : Path :=
  if folder.text.isEmpty then below
  else if endsWith folder.text.toList "/" then ⟨folder.text ++ below.text⟩
  else ⟨folder.text ++ "/" ++ below.text⟩

namespace World

variable {m : Type → Type} [Monad m] (world : World m)

/-- Reads a file of a repository. -/
def deliver (root path : Path) : m Delivery := do
  match ← world.read (root.join path) with
  | .ok bytes => return .fetched ⟨path, bytes⟩
  | .error reason => return .failed path reason

/-- The files of the checkout at a path. -/
def fetch (root : Path) : m (Except Error (List Delivery)) := do
  match ← world.checkout? root with
  | none => return .error (.fileNotFound root.text)
  | some checkout =>
    if checkout.entry.isFolder then return .ok (← checkout.files.mapM (world.deliver root))
    else return .error (.notADirectory root.text)

/-- The source file at a path. -/
def load (path : Path) : m (Except Error SourceFile) := do
  match ← world.read path with
  | .ok bytes => return RawFile.decode ⟨path, bytes⟩
  | .error reason => return .error (.unreadable reason)

end World

/-!
## A world held in memory

The program runs in the top folder of a tree of folders and files.
-/

/-- A file, or a folder with what stands in it by name. -/
inductive Node where
  | file (bytes : Bytes)
  | folder (entries : List (String × Node))

namespace Node

/-- A folder without anything in it. -/
def empty : Node := folder []

/-- The node is a folder. -/
def isFolder : Node → Bool
  | folder _ => true
  | file _ => false

/-- The bytes of a file. -/
def bytes? : Node → Option Bytes
  | file bytes => some bytes
  | folder _ => none

/-- What stands in a folder by name; nothing in a file. -/
def entries : Node → List (String × Node)
  | folder entries => entries
  | file _ => []

/-- What stands under a name. -/
def child? (node : Node) (name : String) : Option Node :=
  (node.entries.find? fun entry => entry.1 = name).map (·.2)

/-- Puts a node under a name. -/
def withChild (node : Node) (name : String) (child : Node) : Node :=
  if (node.child? name).isSome then
    folder (node.entries.map fun entry => if entry.1 = name then (name, child) else entry)
  else folder (node.entries ++ [(name, child)])

/-- Puts something at the end of a path of names, with folders on the way. -/
def put (node : Node) (names : List String) (new : Node) : Node :=
  match names with
  | [] => new
  | name :: rest => node.withChild name (((node.child? name).getD empty).put rest new)

/-- What stands at the end of a path of names. -/
def find? (node : Node) (names : List String) : Option Node :=
  names.foldlM child? node

/-- The rules that the ignore files in a folder make. -/
def rules (node : Node) : FolderRules :=
  .ofFiles fun names => (node.find? names).bind bytes?

mutual

/-- The node without the contents of its files, apart from the rules of its folders. -/
def entry : Node → Entry
  | file _ => .file
  | folder entries => .folder (folder entries).rules (entryEach entries)

/-- What stands in a folder, for each name. -/
def entryEach : List (String × Node) → List (String × Entry)
  | [] => []
  | (name, node) :: rest => (name, node.entry) :: entryEach rest

end

end Node

/-- A place in a tree: what stands there, and the folders around it with the names that lead down
from each, the innermost first. -/
structure Place where
  node : Node
  above : List (Node × String) := []

namespace Place

/-- Goes on by one component of a path. -/
def step? (place : Place) : PathComponent → Option Place
  | .root => none
  | .here => if place.node.isFolder then some place else none
  | .parent =>
    match place.above with
    | (folder, _) :: above => if place.node.isFolder then some { node := folder, above } else none
    | [] => none
  | .name text =>
    let name := String.ofList text
    (place.node.child? name).map fun child =>
      { node := child, above := (place.node, name) :: place.above }

/-- The place at the end of a path. A path that ends with a slash leads to folders only. -/
def find? (place : Place) (path : Path) : Option Place :=
  match path.components.foldlM step? place with
  | none => none
  | some found =>
    let text := path.text.toList
    if (endsWith text "/" || endsWith text "/.") && !found.node.isFolder then none else some found

/-- The folders around the place as levels of rules. -/
def levels : List (Node × String) → List FolderLevel
  | [] => []
  | (folder, name) :: above =>
    { rules := folder.rules, below := [name] } :: (levels above).map (·.descend name)

/-- The place as a checkout, with the folders around it. -/
def checkout (place : Place) : Checkout where
  entry := place.node.entry
  above := levels place.above

end Place

/-- The world of a tree and some variables. -/
def World.ofNode (tree : Node) (environment : List (String × String)) : World Id where
  checkout? path := (Place.find? { node := tree } path).map Place.checkout
  isFile path :=
    match Place.find? { node := tree } path with
    | some place => !place.node.isFolder
    | none => false
  read path :=
    match Place.find? { node := tree } path with
    | some { node := .file bytes, .. } => .ok bytes
    | some _ => .error "is a directory"
    | none => .error "no such file"
  depth := 0
  environment := environment
  clock := 0
  isTerminal := false

end Affinity
