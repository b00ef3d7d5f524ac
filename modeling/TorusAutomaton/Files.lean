import TorusAutomaton.Failure
import TorusAutomaton.Text

/-! A directory held in memory, and its place in a file system. Paths are
resolved one component after another, as a file system does it: what is passed
through has to be a directory that exists. -/
namespace TorusAutomaton

structure Directory where
  files : List (List String × ByteArray)
  folders : List (List String)

namespace Directory

def components (path : String) : List String := Text.split '/' path

/-- Where relative paths begin. The last name is one that no path can spell. -/
def place : List String := ["tmp", ""]

def rootFolders : List String := ["bin", "boot", "dev", "dev/pts", "dev/shm", "etc", "home", "lib",
  "media", "mnt", "opt", "proc", "root", "run", "sbin", "srv", "sys", "tmp", "usr", "usr/bin",
  "usr/lib", "usr/local", "usr/sbin", "usr/share", "var", "var/cache", "var/lib", "var/log",
  "var/tmp"]

/-- The files and folders of one directory. Of what is around them only an empty file is known. -/
def ofFiles (files : List (String × ByteArray)) (folders : List String) : Directory where
  files := (["dev", "null"], .empty) :: files.map fun f => (place ++ components f.1, f.2)
  folders := place :: (rootFolders.map components ++ folders.map (place ++ components ·))

def isFolder (d : Directory) (path : List String) : Bool :=
  path.isEmpty || d.folders.contains path ||
    d.files.any fun f => path.length < f.1.length && f.1.take path.length == path

def file? (d : Directory) (path : List String) : Option ByteArray := d.files.lookup path

def isStay (name : String) : Bool := name == "" || name == "."

/-- Follows the components from a directory. Above the root is the root. -/
def walk (d : Directory) : List String → List String → Except ReadFailure ByteArray
  | _, [] => .error .isDirectory
  | here, name :: names =>
    if isStay name then walk d here names
    else if name == ".." then walk d here.dropLast names
    else
      let there := here ++ [name]
      if d.isFolder there then walk d there names
      else
        match d.file? there with
        | none => .error .notFound
        | some bytes => if names.isEmpty then .ok bytes else .error .notDirectory

def read (d : Directory) (path : String) : Except ReadFailure ByteArray :=
  match components path with
  | "" :: name :: names => d.walk [] (name :: names)
  | names => d.walk place names

end Directory

end TorusAutomaton
