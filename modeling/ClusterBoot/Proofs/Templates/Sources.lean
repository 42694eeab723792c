/-
  ClusterBoot.Proofs.Templates.Sources
  ────────────────────────────────
  **THE TEMPLATES OF THE COMMAND.**

  Four templates come with the command: one for the script of each kind of
  cluster, one for the manifest of the virtual addresses, and one for the
  repository file of a SELinux policy.  Each is given as it is written, line
  by line, and as it is read (`read_singleNode` and so on).  Blocks that both
  scripts have in common are read in the same way.
-/
import ClusterBoot.Failure
import ClusterBoot.Proofs.Templates.Language

namespace ClusterBoot.Template

/-! ## §1. As they are written. -/

/-- The script of a single node. -/
def singleNodeText : List String :=
  ["#!/bin/bash",
   "set -euo pipefail",
   "",
   "\x7b% if distribution == \"rke2\" -%\x7d",
   "CONFIG_DIR=/etc/rancher/rke2",
   "MANIFESTS_DIR=/var/lib/rancher/rke2/server/manifests",
   "IMAGES_DIR=/var/lib/rancher/rke2/agent/images",
   "\x7b%- else -%\x7d",
   "CONFIG_DIR=/etc/rancher/k3s",
   "MANIFESTS_DIR=/var/lib/rancher/k3s/server/manifests",
   "IMAGES_DIR=/var/lib/rancher/k3s/agent/images",
   "\x7b%- endif %\x7d",
   "",
   "mkdir -p $CONFIG_DIR",
   "cp \x7b\x7b config_dir \x7d\x7d/\x7b\x7b server_config_file \x7d\x7d $CONFIG_DIR/config.yaml",
   "\x7b% if vip_manifest %\x7d",
   "mkdir -p $MANIFESTS_DIR",
   "cp \x7b\x7b vip_manifest \x7d\x7d $MANIFESTS_DIR/",
   "\x7b% endif %\x7d",
   "\x7b% if selinux -%\x7d",
   "mkdir -p /etc/pki/rpm-gpg /etc/zypp/repos.d",
   "\x7b% if selinux.signing_key -%\x7d",
   "cp \x7b\x7b selinux.signing_key \x7d\x7d /etc/pki/rpm-gpg/",
   "rpm --import \x7b\x7b selinux.signing_key \x7d\x7d",
   "\x7b% endif -%\x7d",
   "cp \x7b\x7b selinux.repository_file \x7d\x7d /etc/zypp/repos.d/",
   "zypper --non-interactive install \x7b\x7b selinux.package \x7d\x7d",
   "",
   "\x7b% endif -%\x7d",
   "mkdir -p $IMAGES_DIR",
   "cp \x7b\x7b images_path \x7d\x7d/* $IMAGES_DIR/",
   "",
   "\x7b% if distribution == \"rke2\" -%\x7d",
   "export INSTALL_RKE2_ARTIFACT_PATH=\x7b\x7b install_path \x7d\x7d",
   "sh \x7b\x7b install_path \x7d\x7d/\x7b\x7b install_script \x7d\x7d",
   "",
   "systemctl enable rke2-server.service",
   "\x7b%- else -%\x7d",
   "install -m 0755 \x7b\x7b install_path \x7d\x7d/\x7b\x7b binary \x7d\x7d /usr/local/bin/k3s",
   "INSTALL_K3S_SKIP_DOWNLOAD=true INSTALL_K3S_SKIP_START=true sh \x7b\x7b install_path \x7d\x7d/\x7b\x7b install_script \x7d\x7d",
   "",
   "systemctl enable k3s.service",
   "\x7b%- endif %\x7d"]

/-- The script of a cluster of several nodes. -/
def multiNodeText : List String :=
  ["#!/bin/bash",
   "set -euo pipefail",
   "",
   "\x7b% if distribution == \"rke2\" -%\x7d",
   "CONFIG_DIR=/etc/rancher/rke2",
   "MANIFESTS_DIR=/var/lib/rancher/rke2/server/manifests",
   "IMAGES_DIR=/var/lib/rancher/rke2/agent/images",
   "\x7b%- else -%\x7d",
   "CONFIG_DIR=/etc/rancher/k3s",
   "MANIFESTS_DIR=/var/lib/rancher/k3s/server/manifests",
   "IMAGES_DIR=/var/lib/rancher/k3s/agent/images",
   "\x7b%- endif %\x7d",
   "",
   "HOSTNAME=$(cat /etc/hostname)",
   "if [ ! \"$HOSTNAME\" ]; then",
   "  HOSTNAME=$(cat /proc/sys/kernel/hostname)",
   "fi",
   "",
   "declare -A hosts",
   "\x7b% for node in nodes -%\x7d",
   "hosts[\"\x7b\x7b node.hostname \x7d\x7d\"]=\x7b\x7b node.role \x7d\x7d",
   "\x7b% endfor %\x7d",
   "NODETYPE=\"$\x7bhosts[$HOSTNAME]:-none\x7d\"",
   "if [ \"$NODETYPE\" = \"none\" ]; then",
   "  echo \"ERROR: $HOSTNAME is not listed in the cluster nodes\"",
   "  exit 1",
   "fi",
   "",
   "mkdir -p $CONFIG_DIR",
   "if [ \"$HOSTNAME\" = \"\x7b\x7b initialiser \x7d\x7d\" ]; then",
   "  NODETYPE=server",
   "  CONFIGFILE=\x7b\x7b initialiser_config_file \x7d\x7d",
   "\x7b%- if vip_manifest %\x7d",
   "",
   "  mkdir -p $MANIFESTS_DIR",
   "  cp \x7b\x7b vip_manifest \x7d\x7d $MANIFESTS_DIR/",
   "\x7b%- endif %\x7d",
   "elif [ \"$NODETYPE\" = \"server\" ]; then",
   "  CONFIGFILE=\x7b\x7b server_config_file \x7d\x7d",
   "else",
   "  CONFIGFILE=\x7b\x7b agent_config_file \x7d\x7d",
   "fi",
   "",
   "cp \x7b\x7b config_dir \x7d\x7d/$CONFIGFILE $CONFIG_DIR/config.yaml",
   "",
   "\x7b% if selinux -%\x7d",
   "mkdir -p /etc/pki/rpm-gpg /etc/zypp/repos.d",
   "\x7b% if selinux.signing_key -%\x7d",
   "cp \x7b\x7b selinux.signing_key \x7d\x7d /etc/pki/rpm-gpg/",
   "rpm --import \x7b\x7b selinux.signing_key \x7d\x7d",
   "\x7b% endif -%\x7d",
   "cp \x7b\x7b selinux.repository_file \x7d\x7d /etc/zypp/repos.d/",
   "zypper --non-interactive install \x7b\x7b selinux.package \x7d\x7d",
   "",
   "\x7b% endif -%\x7d",
   "mkdir -p $IMAGES_DIR",
   "cp \x7b\x7b images_path \x7d\x7d/* $IMAGES_DIR/",
   "",
   "\x7b% if distribution == \"rke2\" -%\x7d",
   "export INSTALL_RKE2_ARTIFACT_PATH=\x7b\x7b install_path \x7d\x7d",
   "export INSTALL_RKE2_TYPE=$NODETYPE",
   "sh \x7b\x7b install_path \x7d\x7d/\x7b\x7b install_script \x7d\x7d",
   "",
   "systemctl enable rke2-$NODETYPE.service",
   "\x7b%- else -%\x7d",
   "install -m 0755 \x7b\x7b install_path \x7d\x7d/\x7b\x7b binary \x7d\x7d /usr/local/bin/k3s",
   "INSTALL_K3S_SKIP_DOWNLOAD=true INSTALL_K3S_SKIP_START=true INSTALL_K3S_EXEC=$NODETYPE sh \x7b\x7b install_path \x7d\x7d/\x7b\x7b install_script \x7d\x7d",
   "",
   "if [ \"$NODETYPE\" = \"server\" ]; then",
   "  systemctl enable k3s.service",
   "else",
   "  systemctl enable k3s-agent.service",
   "fi",
   "\x7b%- endif %\x7d"]

/-- The manifest of the virtual addresses. -/
def vipManifestText : List String :=
  ["apiVersion: metallb.io/v1beta1",
   "kind: IPAddressPool",
   "metadata:",
   "  name: kubernetes-vip-ip-pool",
   "  namespace: metallb-system",
   "spec:",
   "  addresses:",
   "\x7b%- for vip in addresses %\x7d",
   "    - \x7b\x7b vip.address \x7d\x7d/\x7b\x7b vip.prefix_length \x7d\x7d",
   "\x7b%- endfor %\x7d",
   "  serviceAllocation:",
   "    priority: 100",
   "    namespaces:",
   "      - default",
   "    serviceSelectors:",
   "      - matchExpressions:",
   "          - \x7bkey: \"serviceType\", operator: In, values: [kubernetes-vip]\x7d",
   "---",
   "apiVersion: metallb.io/v1beta1",
   "kind: L2Advertisement",
   "metadata:",
   "  name: kubernetes-vip-l2-adv",
   "  namespace: metallb-system",
   "spec:",
   "  ipAddressPools:",
   "    - kubernetes-vip-ip-pool",
   "---",
   "apiVersion: v1",
   "kind: Service",
   "metadata:",
   "  name: kubernetes-vip",
   "  namespace: default",
   "  labels:",
   "    serviceType: kubernetes-vip",
   "spec:",
   "  ports:",
   "\x7b%- if rke2 %\x7d",
   "    - name: rke2-api",
   "      port: 9345",
   "      protocol: TCP",
   "      targetPort: 9345",
   "\x7b%- endif %\x7d",
   "    - name: k8s-api",
   "      port: 6443",
   "      protocol: TCP",
   "      targetPort: 6443",
   "  ipFamilyPolicy: \x7b% if ip_families | length > 1 %\x7dPreferDualStack\x7b% else %\x7dSingleStack\x7b% endif %\x7d",
   "  ipFamilies:",
   "\x7b%- for family in ip_families %\x7d",
   "    - \x7b\x7b family \x7d\x7d",
   "\x7b%- endfor %\x7d",
   "  publishNotReadyAddresses: true",
   "  selector:",
   "    node-role.kubernetes.io/control-plane: \"true\"",
   "  sessionAffinity: None",
   "  type: LoadBalancer"]

/-- The repository file of a SELinux policy. -/
def repositoryText : List String :=
  ["[\x7b\x7b name \x7d\x7d]",
   "name=\x7b\x7b name \x7d\x7d",
   "baseurl=\x7b\x7b url \x7d\x7d",
   "enabled=1",
   "autorefresh=0",
   "priority=\x7b\x7b priority \x7d\x7d",
   "\x7b% if gpgcheck -%\x7d",
   "gpgcheck=1",
   "gpgkey=file://\x7b\x7b gpgkey \x7d\x7d",
   "\x7b%- else -%\x7d",
   "gpgcheck=0",
   "\x7b%- endif %\x7d"]

/-- The templates by their names. -/
def sources : List (String × List String) :=
  [("single-node-installer.sh", singleNodeText),
   ("multi-node-installer.sh", multiNodeText),
   ("k8s-vip.yaml", vipManifestText),
   ("selinux.repo", repositoryText)]

/-! ## §2. Blocks of the scripts. -/

/-- The first lines: where the distribution keeps its files. -/
def head (rest : Template) : Template :=
  lines ["#!/bin/bash", "set -euo pipefail", ""] <|
  choice (.equals ["distribution"] "rke2")
    (lines ["CONFIG_DIR=/etc/rancher/rke2",
        "MANIFESTS_DIR=/var/lib/rancher/rke2/server/manifests"] <|
      text "IMAGES_DIR=/var/lib/rancher/rke2/agent/images" done)
    (lines ["CONFIG_DIR=/etc/rancher/k3s",
        "MANIFESTS_DIR=/var/lib/rancher/k3s/server/manifests"] <|
      text "IMAGES_DIR=/var/lib/rancher/k3s/agent/images" done) <|
  lines ["", ""] rest

/-- Copying the manifest of the virtual addresses on a single node. -/
def manifestCopy (rest : Template) : Template :=
  choice (.holds ["vip_manifest"])
    (lines ["", "mkdir -p $MANIFESTS_DIR"] <|
      text "cp " <| insert ["vip_manifest"] <| lines [" $MANIFESTS_DIR/"] done)
    done rest

/-- Copying it on the initialising node of several ones, behind a line that is not
ended yet. -/
def initialCopy (rest : Template) : Template :=
  choice (.holds ["vip_manifest"])
    (lines ["", "", "  mkdir -p $MANIFESTS_DIR"] <|
      text "  cp " <| insert ["vip_manifest"] <| text " $MANIFESTS_DIR/" done)
    done <|
  newLine rest

/-- Importing the signing key. -/
def keyImport (rest : Template) : Template :=
  choice (.holds ["selinux", "signing_key"])
    (text "cp " <| insert ["selinux", "signing_key"] <| lines [" /etc/pki/rpm-gpg/"] <|
      text "rpm --import " <| insert ["selinux", "signing_key"] <| newLine done)
    done rest

/-- Installing the SELinux policy. -/
def policy (rest : Template) : Template :=
  choice (.holds ["selinux"])
    (lines ["mkdir -p /etc/pki/rpm-gpg /etc/zypp/repos.d"] <|
      keyImport <|
      text "cp " <| insert ["selinux", "repository_file"] <| lines [" /etc/zypp/repos.d/"] <|
      text "zypper --non-interactive install " <| insert ["selinux", "package"] <|
      lines ["", ""] done)
    done rest

/-- Copying the image bundles. -/
def images (rest : Template) : Template :=
  lines ["mkdir -p $IMAGES_DIR"] <|
  text "cp " <| insert ["images_path"] <| lines ["/* $IMAGES_DIR/", ""] rest

/-- The path of the distribution's install script, at the end of a line. -/
def scriptPath (rest : Template) : Template :=
  insert ["install_path"] <| text "/" <| insert ["install_script"] <| newLine rest

/-- Putting the binary of K3s into place. -/
def binary (rest : Template) : Template :=
  text "install -m 0755 " <| insert ["install_path"] <| text "/" <| insert ["binary"] <|
  lines [" /usr/local/bin/k3s"] rest

/-- Running the install script of a single node. -/
def singleService : Template :=
  choice (.equals ["distribution"] "rke2")
    (text "export INSTALL_RKE2_ARTIFACT_PATH=" <| insert ["install_path"] <| newLine <|
      text "sh " <| scriptPath <|
      lines [""] <| text "systemctl enable rke2-server.service" done)
    (binary <|
      text "INSTALL_K3S_SKIP_DOWNLOAD=true INSTALL_K3S_SKIP_START=true sh " <| scriptPath <|
      lines [""] <| text "systemctl enable k3s.service" done) <|
  newLine done

/-- Running the install script of one of several nodes. -/
def multiService : Template :=
  choice (.equals ["distribution"] "rke2")
    (text "export INSTALL_RKE2_ARTIFACT_PATH=" <| insert ["install_path"] <| newLine <|
      lines ["export INSTALL_RKE2_TYPE=$NODETYPE"] <|
      text "sh " <| scriptPath <|
      lines [""] <| text "systemctl enable rke2-$NODETYPE.service" done)
    (binary <|
      text
      "INSTALL_K3S_SKIP_DOWNLOAD=true INSTALL_K3S_SKIP_START=true INSTALL_K3S_EXEC=$NODETYPE sh " <|
      scriptPath <|
      lines ["",
        "if [ \"$NODETYPE\" = \"server\" ]; then",
        "  systemctl enable k3s.service",
        "else",
        "  systemctl enable k3s-agent.service"] <| text "fi" done) <|
  newLine done

/-- Finding the role of a node from its host name. -/
def roles (rest : Template) : Template :=
  lines ["HOSTNAME=$(cat /etc/hostname)",
    "if [ ! \"$HOSTNAME\" ]; then",
    "  HOSTNAME=$(cat /proc/sys/kernel/hostname)",
    "fi",
    "",
    "declare -A hosts"] <|
  loop "node" ["nodes"]
    (text "hosts[\"" <| insert ["node", "hostname"] <| text "\"]=" <| insert ["node", "role"] <|
      newLine done) <|
  lines ["",
    "NODETYPE=\"$\x7bhosts[$HOSTNAME]:-none\x7d\"",
    "if [ \"$NODETYPE\" = \"none\" ]; then",
    "  echo \"ERROR: $HOSTNAME is not listed in the cluster nodes\"",
    "  exit 1",
    "fi",
    ""] rest

/-- Copying the role document of a node. -/
def documentCopy (rest : Template) : Template :=
  lines ["mkdir -p $CONFIG_DIR"] <|
  text "if [ \"$HOSTNAME\" = \"" <| insert ["initialiser"] <|
  lines ["\" ]; then", "  NODETYPE=server"] <|
  text "  CONFIGFILE=" <| insert ["initialiser_config_file"] <|
  initialCopy <|
  lines ["elif [ \"$NODETYPE\" = \"server\" ]; then"] <|
  text "  CONFIGFILE=" <| insert ["server_config_file"] <|
  lines ["", "else"] <|
  text "  CONFIGFILE=" <| insert ["agent_config_file"] <|
  lines ["", "fi", ""] <|
  text "cp " <| insert ["config_dir"] <| lines ["/$CONFIGFILE $CONFIG_DIR/config.yaml", ""] rest

/-! ## §3. Blocks of the manifest. -/

/-- Items, each on a line of its own behind a line that is not ended yet. -/
def listed (item : String) (path : List String) (body rest : Template) : Template :=
  loop item path (newLine body) <| newLine rest

/-- The ports of the service that are there for RKE2 only. -/
def rke2Ports (rest : Template) : Template :=
  text "  ports:" <|
  choice (.holds ["rke2"])
    (lines ["",
        "    - name: rke2-api",
        "      port: 9345",
        "      protocol: TCP"] <|
      text "      targetPort: 9345" done)
    done <|
  newLine rest

/-- How many IP versions the service has. -/
def familyPolicy (rest : Template) : Template :=
  text "  ipFamilyPolicy: " <|
  choice (.longer ["ip_families"] 1) (text "PreferDualStack" done) (text "SingleStack" done) <|
  newLine rest

/-! ## §4. As they are read. -/

/-- The script of a single node. -/
def singleNode : Template :=
  head <|
  lines ["mkdir -p $CONFIG_DIR"] <|
  text "cp " <| insert ["config_dir"] <| text "/" <| insert ["server_config_file"] <|
  lines [" $CONFIG_DIR/config.yaml"] <|
  manifestCopy <|
  newLine <|
  policy <|
  images singleService

/-- The script of a cluster of several nodes. -/
def multiNode : Template :=
  head <|
  roles <|
  documentCopy <|
  policy <|
  images multiService

/-- The manifest of the virtual addresses. -/
def vipManifest : Template :=
  lines ["apiVersion: metallb.io/v1beta1",
    "kind: IPAddressPool",
    "metadata:",
    "  name: kubernetes-vip-ip-pool",
    "  namespace: metallb-system",
    "spec:"] <|
  text "  addresses:" <|
  listed "vip" ["addresses"]
    (text "    - " <| insert ["vip", "address"] <| text "/" <|
      insert ["vip", "prefix_length"] done) <|
  lines ["  serviceAllocation:",
    "    priority: 100",
    "    namespaces:",
    "      - default",
    "    serviceSelectors:",
    "      - matchExpressions:",
    "          - \x7bkey: \"serviceType\", operator: In, values: [kubernetes-vip]\x7d",
    "---",
    "apiVersion: metallb.io/v1beta1",
    "kind: L2Advertisement",
    "metadata:",
    "  name: kubernetes-vip-l2-adv",
    "  namespace: metallb-system",
    "spec:",
    "  ipAddressPools:",
    "    - kubernetes-vip-ip-pool",
    "---",
    "apiVersion: v1",
    "kind: Service",
    "metadata:",
    "  name: kubernetes-vip",
    "  namespace: default",
    "  labels:",
    "    serviceType: kubernetes-vip",
    "spec:"] <|
  rke2Ports <|
  lines ["    - name: k8s-api",
    "      port: 6443",
    "      protocol: TCP",
    "      targetPort: 6443"] <|
  familyPolicy <|
  text "  ipFamilies:" <|
  listed "family" ["ip_families"] (text "    - " <| insert ["family"] done) <|
  lines ["  publishNotReadyAddresses: true",
    "  selector:",
    "    node-role.kubernetes.io/control-plane: \"true\"",
    "  sessionAffinity: None",
    "  type: LoadBalancer"] done

/-- The repository file of a SELinux policy. -/
def repository : Template :=
  text "[" <| insert ["name"] <| lines ["]"] <|
  text "name=" <| insert ["name"] <| newLine <|
  text "baseurl=" <| insert ["url"] <|
  lines ["", "enabled=1", "autorefresh=0"] <|
  text "priority=" <| insert ["priority"] <| newLine <|
  choice (.holds ["gpgcheck"])
    (lines ["gpgcheck=1"] <| text "gpgkey=file://" <| insert ["gpgkey"] done)
    (text "gpgcheck=0" done) <|
  newLine done

theorem read_singleNode : read? (Text.unlines singleNodeText) = some singleNode := by
  apply read?_unlines
  · unfold singleNodeText
    repeat (apply List.Forall₂.cons; exact rfl)
    exact .nil
  · decide +kernel

set_option maxRecDepth 4000 in
theorem read_multiNode : read? (Text.unlines multiNodeText) = some multiNode := by
  apply read?_unlines
  · unfold multiNodeText
    repeat (apply List.Forall₂.cons; exact rfl)
    exact .nil
  · decide +kernel

theorem read_vipManifest : read? (Text.unlines vipManifestText) = some vipManifest := by
  apply read?_unlines
  · unfold vipManifestText
    repeat (apply List.Forall₂.cons; exact rfl)
    exact .nil
  · decide +kernel

theorem read_repository : read? (Text.unlines repositoryText) = some repository := by
  apply read?_unlines
  · unfold repositoryText
    repeat (apply List.Forall₂.cons; exact rfl)
    exact .nil
  · decide +kernel

/-! ## §5. Rendering by name. -/

/-- The templates as they are read. -/
def templates : List (String × Template) :=
  [("single-node-installer.sh", singleNode),
   ("multi-node-installer.sh", multiNode),
   ("k8s-vip.yaml", vipManifest),
   ("selinux.repo", repository)]

/-- Read a template; a fault in it is reported with its name. -/
def load (source : String × List String) : Except Failure (String × Template) :=
  match read? (Text.unlines source.2) with
  | some t => .ok (source.1, t)
  | none => .error (.unknownTemplate source.1)

/-- Fill a template with values.  If there is none of that name, or a value is
missing, the name is reported. -/
def fill (templates : List (String × Template)) (name : String) (fields : Scope) :
    Except Failure String :=
  match (templates.lookup name).bind (render? (escapes name) fields) with
  | some s => .ok s
  | none => .error (.unknownTemplate name)

/-- Read all templates, and fill one of them with values. -/
def render (name : String) (fields : Scope) : Except Failure String := do
  fill (← sources.mapM load) name fields

theorem load_of_read {name : String} {ls : List String} {t : Template}
    (h : read? (Text.unlines ls) = some t) : load (name, ls) = .ok (name, t) := by
  rw [load, h]

/-- All templates can be read. -/
theorem render_eq (name : String) (fields : Scope) :
    render name fields = fill templates name fields := by
  have hloaded : sources.mapM load = .ok templates := by
    rw [sources, List.mapM_cons, load_of_read read_singleNode, List.mapM_cons,
        load_of_read read_multiNode, List.mapM_cons, load_of_read read_vipManifest,
        List.mapM_cons, load_of_read read_repository]
    rfl
  rw [render, hloaded]
  rfl

/-- A template whose values are not for a web page gives what its tree gives. -/
theorem render_of_renders {name : String} {t : Template} {fields : Scope} {s : String}
    (hname : templates.lookup name = some t) (hplain : escapes name = false)
    (h : Renders fields t s) : render name fields = .ok s := by
  have hsome : (templates.lookup name).bind (render? (escapes name) fields) = some s := by
    rw [hname, hplain]
    exact h
  rw [render_eq, fill, hsome]

/-- Nothing else has a template. -/
theorem render_of_unknown {name : String} (fields : Scope)
    (hname : name ∉ templates.map (·.1)) :
    render name fields = .error (.unknownTemplate name) := by
  have hnone : templates.lookup name = none := by
    rw [List.lookup_eq_none_iff]
    intro p hp
    have hother : name ≠ p.1 := fun h => hname (h ▸ List.mem_map_of_mem hp)
    simpa using hother
  rw [render_eq, fill, hnone]
  rfl

end ClusterBoot.Template
