import Hypervisor.Basic
import Hypervisor.Arch.Constants
import Hypervisor.Arch.Cpu
import Hypervisor.Vmx.Gdt
import Hypervisor.Vmx.Controls
import Hypervisor.Vmx.Run
import Hypervisor.Vmx.Lemmas.Steps
import Hypervisor.Vmx.Lemmas.Controls
import Hypervisor.Vmx.Lemmas.Entry
import Hypervisor.Vmx.Lemmas.Host
import Hypervisor.Vmx.Lemmas.Gdt
import Hypervisor.Vmx.Lemmas.Launch
import Hypervisor.Vmx.Theorems
import Hypervisor.Vmx.Launch
import Hypervisor.Vmx.Lifecycle
import Hypervisor.VmExit.Types
import Hypervisor.VmExit.Dispatch
import Hypervisor.VmExit.Exception
import Hypervisor.VmExit.Lemmas.Dispatch
import Hypervisor.VmExit.Loop
import Hypervisor.VmExit.Lemmas.Loop
import Hypervisor.VmExit.Theorems
import Hypervisor.VmExit.Emulation
import Hypervisor.VmExit.Resume
import Hypervisor.Paging.Tables
import Hypervisor.Paging.Walk
import Hypervisor.Paging.Lemmas.Entry
import Hypervisor.Paging.Lemmas.Build
import Hypervisor.Paging.Lemmas.Walk
import Hypervisor.Paging.Theorems
import Hypervisor.Nt
