import ContainerToolkit.Go.TomlPath
import ContainerToolkit.Go.Runtime
import ContainerToolkit.Containerd.Config
import ContainerToolkit.Containerd.Version
import ContainerToolkit.Containerd.Load
import ContainerToolkit.Containerd.ConfigV1
import ContainerToolkit.Containerd.Update
import ContainerToolkit.Containerd.Revert
import ContainerToolkit.Containerd.RoundTrip
import ContainerToolkit.Modifier.Host
import ContainerToolkit.Modifier.CDI
import ContainerToolkit.Modifier.Devices
import ContainerToolkit.Modifier.Lifecycle
