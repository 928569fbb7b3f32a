import Stopwatch.Library.Files

/-!
# What every system has

A tree of files does not stand alone: around the working directory there are the directories of the
system, its devices and programs, and the C library in its parts.  `Files.within` puts a tree into
such surroundings.  None of the parts exports a function that matters here.
-/

namespace Stopwatch.Files

variable {m : Type → Type}

/-- The names of the parts of the C library. -/
def systemLibraries : List String :=
  ["ld-linux-x86-64.so.2", "libBrokenLocale.so.1", "libanl.so.1", "libc.so.6", "libdl.so.2",
   "libgcc_s.so.1", "libm.so.6", "libmvec.so.1", "libpthread.so.0", "libresolv.so.2", "librt.so.1",
   "libstdc++.so.6", "libthread_db.so.1", "libutil.so.1"]

/-- The directories of libraries. -/
def libraryDirectories : List String := ["lib/x86_64-linux-gnu", "usr/lib/x86_64-linux-gnu"]

/-- The directories of a system, from its root. -/
def systemDirectories : List String :=
  ["bin", "boot", "dev", "dev/pts", "dev/shm", "etc", "home", "lib", "lib64", "media", "mnt", "opt",
   "proc", "proc/self", "root", "run", "sbin", "srv", "sys", "tmp", "usr", "usr/bin", "usr/include",
   "usr/lib", "usr/lib64", "usr/local", "usr/local/bin", "usr/local/lib", "usr/sbin", "usr/share",
   "var", "var/lib", "var/log", "var/tmp"] ++ libraryDirectories

/-- Files that are no libraries: devices, settings, and programs. -/
def systemFiles : List String :=
  ["bin/bash", "bin/cat", "bin/ls", "bin/sh", "dev/full", "dev/null", "dev/random", "dev/stdin",
   "dev/stdout", "dev/tty", "dev/urandom", "dev/zero", "etc/group", "etc/hostname", "etc/hosts",
   "etc/passwd", "etc/resolv.conf", "proc/cpuinfo", "proc/meminfo", "proc/self/exe",
   "proc/self/maps", "proc/self/status", "usr/bin/bash", "usr/bin/cat", "usr/bin/env", "usr/bin/ls",
   "usr/bin/sh"]

/-- What stands around a tree of files. -/
def surroundings : List (List String × File m) :=
  let named (f : File m) (path : String) := (path.splitOn "/", f)
  systemDirectories.map (named .directory) ++ systemFiles.map (named .plain) ++
    (libraryDirectories.flatMap fun d =>
      systemLibraries.map fun l => named (.library {}) (d ++ "/" ++ l)) ++
    [named (.library {}) "lib64/ld-linux-x86-64.so.2"]

/-- A working directory and what it holds, in the surroundings of a system. -/
def within (workingDirectory : List String) (entries : List (String × File m)) : Files m where
  workingDirectory := workingDirectory
  entries := entries.map (fun (name, f) => (workingDirectory ++ [name], f)) ++ surroundings
  system := systemLibraries.map fun name => (name, {})

end Stopwatch.Files
