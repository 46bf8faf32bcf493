import DirectoryLogin.Text.Split
import DirectoryLogin.Text.Utf8

namespace DirectoryLogin

open Text

inductive FileTree
  | file (bytes : List UInt8)
  | directory (entries : List (String × FileTree))
  deriving Inhabited

inductive PathError
  | notFound
  | refused
  | notDirectory
  | isDirectory
  | nameTooLong
  deriving DecidableEq, Inhabited

def PathError.message : PathError → String
  | notFound => "No such file or directory (os error 2)"
  | refused => "Connection refused (os error 111)"
  | notDirectory => "Not a directory (os error 20)"
  | isDirectory => "Is a directory (os error 21)"
  | nameTooLong => "File name too long (os error 36)"

namespace FileTree

def entries : FileTree → List (String × FileTree)
  | file _ => []
  | directory entries => entries

def isDirectory : FileTree → Bool
  | file _ => false
  | directory _ => true

/-- Puts a file or a directory at a path, with the directories on the way. -/
def put (leaf : FileTree) : List String → FileTree → FileTree
  | [], _ => leaf
  | name :: rest, tree =>
    let inner := (tree.entries.lookup name).getD (directory [])
    directory ((name, put leaf rest inner) :: tree.entries.filter (·.1 != name))

/-- The most bytes that a name has. -/
def maxName : Nat := 255

/-- Follows the names of a path. `around` are the directories around a place, the innermost first. -/
def follow (around : List FileTree) (here : FileTree) : List String → Except PathError FileTree
  | [] => .ok here
  | name :: rest =>
    if !here.isDirectory then .error .notDirectory
    else if name = "." then follow around here rest
    else if name = ".." then
      match around with
      | [] => follow [] here rest
      | outer :: more => follow more outer rest
    else if maxName < name.utf8ByteSize then .error .nameTooLong
    else match here.entries.lookup name with
      | none => .error .notFound
      | some inner => follow (here :: around) inner rest

end FileTree

/-- The files of a machine, and the path of the working directory. -/
structure Machine where
  root : FileTree
  here : List String
  deriving Inhabited

namespace Machine

def names (path : String) : List String :=
  (splitText (· == '/') path).filter (· != "")

/-- What a path leads to. A path that ends in a slash leads to a directory. -/
def find (m : Machine) (path : String) : Except PathError FileTree := do
  let start := if path.toList.head? = some '/' then [] else m.here
  let tree ← FileTree.follow [] m.root (start ++ names path)
  if path.toList.getLast? = some '/' && !tree.isDirectory then throw .notDirectory
  return tree

def read (m : Machine) (path : String) : Except PathError (List UInt8) := do
  match ← m.find path with
  | .file bytes => return bytes
  | .directory _ => throw .isDirectory

def connect (m : Machine) (path : String) : PathError :=
  match m.find path with
  | .error e => e
  | .ok _ => .refused

def usualDirectories : String :=
  "/bin /boot /dev/fd /dev/mqueue /dev/pts /dev/shm /etc/alternatives /etc/apt /etc/default /etc/init.d
/etc/ld.so.conf.d /etc/opt /etc/pam.d /etc/profile.d /etc/security /etc/skel /etc/ssl /home /lib /lib64
/media /mnt /opt /proc/self/fd /proc/sys /proc/1 /root /run/lock /sbin /srv /sys/block /sys/bus
/sys/class /sys/dev /sys/devices /sys/fs /sys/kernel /sys/module /tmp /usr/bin /usr/games
/usr/include /usr/lib /usr/local/bin /usr/local/etc /usr/local/include /usr/local/lib /usr/local/sbin
/usr/local/share /usr/local/src /usr/sbin /usr/share /usr/src /var/backups /var/cache /var/lib
/var/local /var/lock /var/log /var/mail /var/opt /var/run /var/spool /var/tmp"

def usualFiles : String :=
  "/bin/bash /bin/cat /bin/cp /bin/date /bin/dd /bin/df /bin/echo /bin/false /bin/grep /bin/ln /bin/ls
/bin/mkdir /bin/mv /bin/ps /bin/pwd /bin/rm /bin/sed /bin/sh /bin/sleep /bin/tar /bin/touch /bin/true
/bin/uname /dev/full /dev/null /dev/ptmx /dev/random /dev/stderr /dev/stdin /dev/stdout /dev/tty
/dev/urandom /dev/zero /dev/fd/0 /dev/fd/1 /dev/fd/2 /etc/bash.bashrc /etc/debian_version
/etc/environment /etc/fstab /etc/group /etc/gshadow /etc/host.conf /etc/hostname /etc/hosts /etc/issue
/etc/ld.so.cache /etc/ld.so.conf /etc/login.defs /etc/nsswitch.conf /etc/os-release /etc/passwd
/etc/profile /etc/resolv.conf /etc/shadow /etc/shells /proc/cmdline /proc/cpuinfo /proc/meminfo
/proc/mounts /proc/self/cmdline /proc/self/environ /proc/self/fd/0 /proc/self/fd/1 /proc/self/fd/2
/proc/self/maps /proc/self/status /proc/stat /proc/uptime /proc/version /usr/bin/awk /usr/bin/bash
/usr/bin/cat /usr/bin/cp /usr/bin/date /usr/bin/env /usr/bin/false /usr/bin/find /usr/bin/grep
/usr/bin/head /usr/bin/ls /usr/bin/mv /usr/bin/perl /usr/bin/rm /usr/bin/sed /usr/bin/sh
/usr/bin/sleep /usr/bin/sort /usr/bin/tail /usr/bin/tar /usr/bin/touch /usr/bin/true /usr/bin/wc"

def paths (list : String) : List (List String) :=
  ((splitText (fun c => c == ' ' || c == '\n') list).filter (· != "")).map names

/-- The tree of a machine with nothing of its own. -/
def bare : FileTree :=
  let directories := (paths usualDirectories).foldl (fun tree path =>
    FileTree.put (.directory []) path tree) (FileTree.directory [])
  (paths usualFiles).foldl (fun tree path => FileTree.put (.file []) path tree) directories

def workingDirectory : List String := ["tmp", "work"]

/-- The names of the standard input among the files. -/
def inputPaths : List (List String) :=
  [["dev", "stdin"], ["dev", "fd", "0"], ["proc", "self", "fd", "0"]]

/-- A machine whose working directory holds files, and whose standard input has an input. -/
def usual (files : List (String × List UInt8)) (input : List UInt8) : Machine where
  root :=
    let withInput := inputPaths.foldl (fun tree path => FileTree.put (.file input) path tree) bare
    files.foldl (fun tree (path, bytes) =>
      FileTree.put (.file bytes) (workingDirectory ++ (names path).filter (· != ".")) tree)
      (FileTree.put (.directory []) workingDirectory withInput)
  here := workingDirectory

end Machine

end DirectoryLogin
