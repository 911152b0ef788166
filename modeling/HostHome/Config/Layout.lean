import HostHome.Path.Basic

/-!
# Layout of homes

All paths of a run follow from the path of the shared home and the name of the
per-host home.
-/

namespace HostHome.Config

/-- The directory of all per-host homes, in the shared home. -/
def perHostDirectoryName : String := "home_local"

/-- The link to the shared home, in a per-host home. -/
def topLinkName : String := "topdir"

/-- The directory of the configuration, in the shared home. -/
def configDirectoryName : String := ".multihome"

/-- The transfer file, in the configuration. -/
def transferFileName : String := "transfer"

/-- The host-group file, in the configuration. -/
def hostGroupFileName : String := "host_group"

/-- The skeleton of the user, in the configuration. -/
def skeletonName : String := "skel"

/-- The script for shells of the Bourne family, in the configuration. -/
def shellScriptName : String := "init.sh"

/-- The script for shells of the C family, in the configuration. -/
def cShellScriptName : String := "init.csh"

/-- The file that marks a home as ready. -/
def markerName : String := ".multihome_controlled"

/-- The skeleton of the system. -/
def systemSkeletonPath : Path := .ofText "/etc/skel"

/-- The paths of a run. -/
structure Layout where
  /-- The shared home. -/
  sharedHome : Path
  /-- The per-host home. -/
  hostHome : Path
  /-- The link from the per-host home to the shared home. -/
  topLink : Path
  /-- The directory of the configuration. -/
  configDirectory : Path
  /-- The skeleton of the user. -/
  skeleton : Path
  /-- The skeleton of the system. -/
  systemSkeleton : Path
  /-- The transfer file. -/
  transferFile : Path
  /-- The host-group file. -/
  hostGroupFile : Path
  /-- The script for shells of the Bourne family. -/
  shellScript : Path
  /-- The script for shells of the C family. -/
  cShellScript : Path
  /-- The file that marks the per-host home as ready. -/
  marker : Path
  /-- The file that shows that the shared home is itself a per-host home. -/
  nestedMarker : Path
  deriving DecidableEq, Repr

def configDirectoryOf (sharedHome : Path) : Path := sharedHome.joinText configDirectoryName

/-- The host-group file of a shared home. It is read before the name of the per-host home is
known. -/
def hostGroupFileOf (sharedHome : Path) : Path :=
  (configDirectoryOf sharedHome).joinText hostGroupFileName

def hostHomeOf (sharedHome : Path) (homeName : String) : Path :=
  (sharedHome.joinText perHostDirectoryName).joinText homeName

def Layout.of (sharedHome : Path) (homeName : String) (systemSkeleton : Path) : Layout :=
  let configDirectory := configDirectoryOf sharedHome
  let hostHome := hostHomeOf sharedHome homeName
  { sharedHome
    hostHome
    topLink := hostHome.joinText topLinkName
    configDirectory
    skeleton := configDirectory.joinText skeletonName
    systemSkeleton
    transferFile := configDirectory.joinText transferFileName
    hostGroupFile := hostGroupFileOf sharedHome
    shellScript := configDirectory.joinText shellScriptName
    cShellScript := configDirectory.joinText cShellScriptName
    marker := hostHome.joinText markerName
    nestedMarker := sharedHome.joinText markerName }

end HostHome.Config
