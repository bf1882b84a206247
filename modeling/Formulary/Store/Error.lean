import Formulary.Disk
import Formulary.Entry.Encoding

/-!
# What stores fail with

A store fails because an entry is not there or is not what it should be, or because of the disk.
-/

namespace Formulary.Store

/-- What could not be done on the disk. -/
inductive DiskError
  | plain (fault : Disk.Fault)
  /-- The folder of the store could not be opened. -/
  | opening (path : String) (fault : Disk.Fault)
  /-- No new file could be made under a path. -/
  | newFile (path : String) (fault : Disk.Fault)
  /-- A new file could not be given the path that it is for. -/
  | keeping (path : String) (fault : Disk.Fault)
  deriving DecidableEq

/-- Why an entry that is there is not what it should be. -/
inductive Doubt
  | otherBytes (actual : Digest)
  | mismatch (mismatch : Entry.Mismatch)
  deriving DecidableEq

/-- Why a store did not do what it was asked for. -/
inductive Error
  | notFound (digest : Digest)
  | doubtful (digest : Digest) (doubt : Doubt)
  | undecodable (error : Entry.DecodeError)
  | disk (error : DiskError)
  deriving DecidableEq

/-- What is said of something that could not be done on the disk. -/
def DiskError.message : DiskError → String
  | plain fault => fault.message
  | opening path fault => "Failed to create entry directory " ++ path ++ ": " ++ fault.message
  | newFile path fault => fault.message ++ " at path " ++ Text.quotedPath path
  | keeping path fault => "Failed to persist entry " ++ path ++ ": " ++ fault.message

/-- What is said of an entry that is not what it should be. -/
def Doubt.message : Doubt → String
  | otherBytes actual => "stored bytes hash to " ++ actual.toText
  | mismatch m => m.message

/-- What is said of an error. -/
def Error.message [Wording] : Error → String
  | notFound d => "Entry not found: " ++ d.toText
  | doubtful d doubt => "Integrity check failed for " ++ d.toText ++ ": " ++ doubt.message
  | undecodable e => "Decode error: " ++ e.message
  | disk e => "IO error: " ++ e.message

end Formulary.Store
