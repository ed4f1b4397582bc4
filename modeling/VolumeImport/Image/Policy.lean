import VolumeImport.FileSystem.Calls
import VolumeImport.Image.Report

/-!
What an import accepts: a known format, a backing file that is there, and room for the whole disk. The
first rule that an image breaks is reported.
-/

namespace VolumeImport.ImageReport

def checkPolicy (report : ImageReport) (available : Int) (image : String) (files : FileSystem) :
    Except ImportError Unit :=
  if !report.format.isSupported then .error (.unsupportedFormat report.format.name image)
  else
    match report.backingFile.filter (!files.isPresent ·) with
    | some missing => .error (.invalidBackingFile image missing.text)
    | none =>
        if available < report.virtualSize then
          .error (.largerVolumeRequired report.virtualSize available)
        else .ok ()

end VolumeImport.ImageReport
